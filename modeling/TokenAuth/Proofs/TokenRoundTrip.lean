import TokenAuth.Issuer
import TokenAuth.Proofs.Base64Text
import TokenAuth.Proofs.ClaimsText

/-!
A signed token gives back the claims it was made for, read with the key and as the kind it was made
with. Its expiry comes back as a whole second; everything else comes back as it was. An issuer
therefore verifies its own tokens up to that second, and finds them expired from then on.
-/
namespace TokenAuth

namespace Text

theorem utf8_ne_nil {s : String} (h : s ≠ "") : utf8 s ≠ [] := by
  intro hnil
  have hempty : ofUtf8? (utf8 "") = some "" := ofUtf8?_utf8 ""
  have hs := ofUtf8?_utf8 s
  have hbytes : utf8 "" = [] := by decide
  rw [hnil, ← hbytes, hempty] at hs
  exact h (Option.some.inj hs).symm

theorem ofList_ne_empty {cs : List Char} (h : cs ≠ []) : String.ofList cs ≠ "" := by
  intro he
  have := congrArg String.toList he
  simp only [String.toList_ofList] at this
  exact h this

end Text

namespace Compact

open Text

theorem dot_not_mem_segment (bs : List UInt8) : '.' ∉ segment bs :=
  Base64.dot_not_mem_encode .urlSafe bs

theorem readSegment_segment (bs : List UInt8) : readSegment (segment bs) = some bs :=
  Base64.decode_encode .urlSafe bs

theorem segment_ne_nil {bs : List UInt8} (h : bs ≠ []) : segment bs ≠ [] :=
  Base64.encode_ne_nil .urlSafe h

theorem toList_encode (c : Claims) (key : SigningKey) :
    (encode c key).text.toList = textSegment (TokenHeader.render c.kind) ++
      '.' :: (textSegment (ClaimsFormat.render c) ++
        '.' :: segment (signature key (signedPart c))) := by
  simp [encode, render, signedPart]

/-- The three segments of a token are taken apart at its two dots. -/
theorem parts_encode (c : Claims) (key : SigningKey) :
    parts '.' (encode c key).text.toList = [textSegment (TokenHeader.render c.kind),
      textSegment (ClaimsFormat.render c), segment (signature key (signedPart c))] := by
  rw [toList_encode, textSegment, textSegment, parts_append '.' _ _ (dot_not_mem_segment _),
    parts_append '.' _ _ (dot_not_mem_segment _), parts_of_not_mem (dot_not_mem_segment _)]

/-- A token as it is read before its signature is looked at. -/
def untrusted (c : Claims) (key : SigningKey) : Untrusted where
  header := ⟨TokenHeader.hs256, none, some c.kind.tag⟩
  format := .json
  claims := utf8 (String.ofList (ClaimsFormat.render c))
  signature := signature key (signedPart c)
  signed := signedPart c

theorem read_encode (c : Claims) (key : SigningKey) :
    read (encode c key).text.toList = .ok (untrusted c key) := by
  have hheader : (ofUtf8? (utf8 (String.ofList (TokenHeader.render c.kind)))).bind
      (fun t => TokenHeader.read? t.toList) = some ⟨TokenHeader.hs256, none, some c.kind.tag⟩ := by
    rw [ofUtf8?_utf8, Option.bind_some, String.toList_ofList, TokenHeader.read?_render]
  simp only [read, parts_encode, readSegments, textSegment, readSegment_segment, hheader,
    ClaimsFormat.ofContentType?]
  rfl

theorem verify_untrusted (c : Claims) (key : SigningKey) :
    verify (untrusted c key) c.kind key =
      .ok { c with expires := c.expires.wholeSecond } := by
  have hlength : (signature key (signedPart c)).length = 32 := Crypto.Hmac.length_code _ _
  have hclaims : ClaimsFormat.json.read (utf8 (String.ofList (ClaimsFormat.render c))) =
      some ⟨some c.expires.wholeSecond, c.body⟩ := by
    rw [ClaimsFormat.read, ofUtf8?_utf8, Option.bind_some, String.toList_ofList,
      ClaimsFormat.readJson_render]
  simp [verify, untrusted, hlength, hclaims]

/-- Reading a token undoes signing, up to the fraction of the expiry. -/
theorem decode_encode_claims (c : Claims) (key : SigningKey) :
    decode (encode c key) c.kind key = .ok { c with expires := c.expires.wholeSecond } := by
  have hkind : checkKind (untrusted c key) c.kind = .ok () := if_pos rfl
  simp only [decode, read_encode, hkind, verify_untrusted]

/-- A token made for an identity of any name, email address, number and instant of creation is three
segments of base64 with dots between them, and gives back its claims. The correlation tag is there in
access tokens alone. -/
theorem decode_encode_ofIdentity (i : Identity) (expires : Instant) (kind : TokenKind)
    (key : SigningKey) :
    (∃ header claims code : List UInt8,
      segment header ≠ [] ∧ segment claims ≠ [] ∧ segment code ≠ [] ∧
      (encode (Claims.ofIdentity i expires kind) key).text.toList =
        segment header ++ '.' :: (segment claims ++ '.' :: segment code)) ∧
    SignedToken.ofText (encode (Claims.ofIdentity i expires kind) key).text =
      .ok (encode (Claims.ofIdentity i expires kind) key) ∧
    ∃ c, decode (encode (Claims.ofIdentity i expires kind) key) kind key = .ok c ∧
      c.kind = kind ∧ c.body = (Claims.ofIdentity i expires kind).body ∧
      c.body.user = i ∧ c.body.subject = i.subject ∧ (c.body.idHash.isSome ↔ kind = .access) ∧
      c.expires.seconds = expires.seconds ∧ c.expires.nanos = 0 ∧ c.expires ≤ expires := by
  refine ⟨⟨_, _, _, ?_, ?_, ?_, toList_encode _ key⟩, SignedToken.ofText_text _,
    _, decode_encode_claims (Claims.ofIdentity i expires kind) key, rfl, rfl, rfl, rfl, ?_,
    rfl, rfl, ?_⟩
  · apply segment_ne_nil
    apply utf8_ne_nil
    exact ofList_ne_empty (by simp [TokenHeader.render, Json.renderObject])
  · apply segment_ne_nil
    apply utf8_ne_nil
    exact ofList_ne_empty (by simp [ClaimsFormat.render, Json.renderObject])
  · apply segment_ne_nil
    apply List.ne_nil_of_length_eq_add_one (n := 31)
    exact Crypto.Hmac.length_code _ _
  · cases kind <;> simp [Claims.ofIdentity]
  · rw [Instant.le_iff]
    exact Or.inr ⟨rfl, Nat.zero_le _⟩

end Compact

namespace Issuer

theorem verify_eq_ok_iff {g : Issuer} {now : Instant} {t : SignedToken} {kind : TokenKind}
    {v : VerifiedToken} :
    g.verify now t kind = .ok v ↔ ∃ c, Compact.decode t kind (g.keys.forKind kind) = .ok c ∧
      now ≤ c.expires ∧ v = ⟨c.body.user, c.expires⟩ := by
  unfold verify
  constructor
  · intro h
    split at h
    · simp at h
    · next c hc =>
      split at h
      · simp at h
      · next hgood => exact ⟨c, hc, hgood, (Except.ok.inj h).symm⟩
  · rintro ⟨c, hc, hgood, rfl⟩
    simp only [hc]
    exact if_neg hgood

/-- A token that an issuer made is good up to its second of expiry and expired afterwards, whatever the
clock shows. -/
theorem verify_create (g : Issuer) (i : Identity) (expires : Instant) (kind : TokenKind)
    (now : Instant) :
    g.verify now (g.create i expires kind) kind =
      if expires.wholeSecond < now then .error .expired else .ok ⟨i, expires.wholeSecond⟩ := by
  have hdecode : Compact.decode (g.create i expires kind) kind (g.keys.forKind kind) =
      .ok { Claims.ofIdentity i expires kind with expires := expires.wholeSecond } :=
    Compact.decode_encode_claims (Claims.ofIdentity i expires kind) (g.keys.forKind kind)
  simp only [verify, hdecode]
  rfl

end Issuer

end TokenAuth
