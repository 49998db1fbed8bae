import TokenAuth.Proofs.TokenVerdicts

/-!
Signatures cannot be varied. What a token says in front of its last dot is accepted with one text behind
that dot and no other: any other text without a dot, of whatever length and in whatever characters, is
reported as a wrong signature.
-/
namespace TokenAuth

namespace Text

/-- A text with visible characters at its ends is trimmed already. -/
theorem trim_of_ends {cs : List Char} (hfirst : ∀ c ∈ cs.head?, isBlank c = false)
    (hlast : ∀ c ∈ cs.getLast?, isBlank c = false) : trim cs = cs := by
  have hstart : ∀ ds : List Char, (∀ c ∈ ds.head?, isBlank c = false) → trimStart ds = ds := by
    intro ds hds
    cases ds with
    | nil => rfl
    | cons c r => simp [trimStart, hds c (by simp)]
  rw [trim, trimEnd, hstart cs hfirst, hstart cs.reverse (by simpa using hlast),
    List.reverse_reverse]

end Text

namespace Compact

open Text

variable {kind : TokenKind} {key : SigningKey} {r : Reading} {t : SignedToken} {c : Claims}

theorem Reading.Fits.head_signed {cs : List Char} (h : r.Fits cs) :
    ∃ x rest, r.signed = x :: rest ∧ isBlank x = false := by
  obtain ⟨header, hsigned, -⟩ := h.signed_eq
  cases hsegment : segment header with
  | nil => exact ⟨'.', _, by rw [hsigned, hsegment]; rfl, by decide⟩
  | cons x rest =>
    have hx : x ∈ segment header := by simp [hsegment]
    exact ⟨x, _, by rw [hsigned, hsegment]; rfl, Base64.isBlank_of_mem_encode hx⟩

/-- Behind the same signed part, any text that does not end in a blank makes a token. -/
theorem Reading.Fits.ofText_replace {cs : List Char} (h : r.Fits cs) {text : String}
    {code : List Char} (htext : text.toList = r.signed ++ '.' :: code)
    (hend : ∀ x ∈ code.getLast?, isBlank x = false) :
    ∃ t, SignedToken.ofText text = .ok t ∧ t.text = text := by
  obtain ⟨x, rest, hsigned, hx⟩ := h.head_signed
  have hfirst : ∀ y ∈ text.toList.head?, isBlank y = false := by
    simp [htext, hsigned, hx]
  have hlast : ∀ y ∈ text.toList.getLast?, isBlank y = false := by
    cases code with
    | nil =>
      rw [htext]
      simp
      decide
    | cons y code =>
      rw [htext]
      simpa using hend
  have htrimmed : trimmed text = text := by
    rw [trimmed, trim_of_ends hfirst hlast, String.ofList_toList]
  have hne : trimmed text ≠ "" := by
    rw [htrimmed]
    intro hempty
    rw [hempty, hsigned] at htext
    simp at htext
  exact ⟨_, dif_neg hne, htrimmed⟩

theorem judge_of_other_code (h : r.Accepted kind key c) {code : List Char} (hne : code ≠ r.code) :
    Reading.judge { r with code } kind key = .error .invalidSignature := by
  by_cases hbase64 : ∀ bs, code ≠ segment bs
  · exact CodeVerdict.judge_eq (.notBase64 hbase64)
  push Not at hbase64
  obtain ⟨bs, hbs⟩ := hbase64
  by_cases hlength : bs.length = 32
  · have hforged : bs ≠ signature key r.signed := by
      rintro rfl
      exact hne (hbs.trans h.code_eq.symm)
    exact CodeVerdict.judge_eq (.forged hbs h.algorithm_eq hlength h.claims_eq hforged)
  · exact CodeVerdict.judge_eq (.otherLength hbs h.algorithm_eq hlength)

/-- A token that is accepted has the one signature that its signed part can have. With any other text in
its place, as long as this holds no dot and does not end in a blank, the token is one that is wrongly
signed. -/
theorem decode_of_other_code {p s s' : String} (htext : t.text = p ++ "." ++ s)
    (hok : decode t kind key = .ok c) (hs : '.' ∉ s.toList) (hne : s' ≠ s)
    (hs' : '.' ∉ s'.toList) (hend : ∀ x ∈ s'.toList.getLast?, isBlank x = false) :
    s.toList = segment (signature key p.toList) ∧
      ∃ t', SignedToken.ofText (p ++ "." ++ s') = .ok t' ∧ t'.text = p ++ "." ++ s' ∧
        decode t' kind key = .error .invalidSignature := by
  obtain ⟨r, hr, haccepted⟩ := accepted_of_decode hok
  have hsplit : ∀ q : String, (p ++ "." ++ q).toList = p.toList ++ '.' :: q.toList := by
    intro q
    simp
  rw [htext, hsplit] at hr
  obtain ⟨hsigned, hcode⟩ := hr.eq_of_append hs
  have hsame := haccepted.code_eq
  rw [hsigned, hcode] at hsame
  have hother : s'.toList ≠ r.code := by
    rw [hcode]
    exact fun h => hne (String.toList_inj.1 h)
  have hnew : (p ++ "." ++ s').toList = r.signed ++ '.' :: s'.toList := by
    rw [hsplit, hsigned]
  obtain ⟨t', hok', htext'⟩ := hr.ofText_replace hnew hend
  have hr' := hr.replace hs'
  rw [← hnew, ← htext'] at hr'
  refine ⟨hsame, t', hok', htext', ?_⟩
  rw [decode_of_fits hr', if_pos haccepted.tag_eq, judge_of_other_code haccepted hother]

/-- Claims and their token, for trying out statements. -/
def sampleExpiry : Instant := (Instant.ofSeconds? 1700000000).get rfl

def sampleClaims : Claims :=
  Claims.ofIdentity ⟨1, ⟨"reader", by decide⟩, ⟨"reader@host", by decide⟩, sampleExpiry⟩
    sampleExpiry .access

def sampleToken : SignedToken := encode sampleClaims sampleKey

theorem decode_sampleToken : decode sampleToken .access sampleKey = .ok sampleClaims :=
  decode_encode_claims sampleClaims sampleKey

/-- With its signature left out, the token is wrongly signed. -/
theorem decode_of_other_code_sample :
    ∃ p s : String, sampleToken.text = p ++ "." ++ s ∧ '.' ∉ s.toList ∧ "" ≠ s ∧
      ∃ t', SignedToken.ofText (p ++ "." ++ "") = .ok t' ∧
        decode t' .access sampleKey = .error .invalidSignature := by
  let code := segment (signature sampleKey (signedPart sampleClaims))
  have htext : sampleToken.text =
      String.ofList (signedPart sampleClaims) ++ "." ++ String.ofList code := by
    rw [← String.toList_inj]
    simp [sampleToken, encode, render, code]
  have hdot : '.' ∉ (String.ofList code).toList := by
    rw [String.toList_ofList]
    exact dot_not_mem_segment _
  have hcode : code ≠ [] := by
    apply segment_ne_nil
    apply List.ne_nil_of_length_pos
    rw [length_signature]
    decide
  have hne : "" ≠ String.ofList code := (ofList_ne_empty hcode).symm
  obtain ⟨-, t', hok, -, hdecode⟩ :=
    decode_of_other_code htext decode_sampleToken hdot hne (by decide) (by simp)
  exact ⟨_, _, htext, hdot, hne, t', hok, hdecode⟩

def accessHeader : String := "eyJhbGciOiJIUzI1NiIsInR5cCI6ImFjY2Vzcy10a24ifQ"

theorem toList_accessHeader :
    accessHeader.toList = textSegment (TokenHeader.render .access) := by
  decide +kernel

/-- A header with no more than one text behind it. -/
def shortToken : SignedToken where
  text := accessHeader ++ "." ++ "AAAA"
  text_ne := by decide
  text_trimmed := by decide +kernel

/-- It has to be the last dot that the text is replaced behind: behind the first one, what is left is
not a token at all. -/
theorem decode_shortToken_ne_invalidSignature :
    ∃ s : String, sampleToken.text = accessHeader ++ "." ++ s ∧
      decode sampleToken .access sampleKey = .ok sampleClaims ∧ "AAAA" ≠ s ∧
      '.' ∉ "AAAA".toList ∧ (∀ x ∈ "AAAA".toList.getLast?, isBlank x = false) ∧
      SignedToken.ofText (accessHeader ++ "." ++ "AAAA") = .ok shortToken ∧
      decode shortToken .access sampleKey = .error (.malformed .segments) ∧
      decode shortToken .access sampleKey ≠ .error .invalidSignature := by
  have hdecode : decode shortToken .access sampleKey = .error (.malformed .segments) := rfl
  have hdot : '.' ∉ "AAAA".toList := by decide
  have hend : ∀ x ∈ "AAAA".toList.getLast?, isBlank x = false := by
    have hlast : "AAAA".toList.getLast? = some 'A' := rfl
    rw [hlast]
    rintro x ⟨⟩
    decide
  refine ⟨String.ofList (textSegment (ClaimsFormat.render sampleClaims) ++
    '.' :: segment (signature sampleKey (signedPart sampleClaims))), ?_, decode_sampleToken, ?_,
    hdot, hend, SignedToken.ofText_text shortToken, hdecode, ?_⟩
  · have hkind : sampleClaims.kind = .access := rfl
    rw [← String.toList_inj, sampleToken, toList_encode]
    simp [toList_accessHeader, hkind]
  · intro hsame
    rw [hsame] at hdot
    simp at hdot
  · rw [hdecode]
    simp

end Compact

end TokenAuth
