import TokenAuth.Proofs.TokenReadings

/-!
What becomes of a token, case by case. A token that cannot be read is malformed, one of another kind is
refused for that whatever else is wrong with it, and the rest is a matter of algorithm, signature and
claims. Claims are read once the signature has the right length and before it is compared, so claims
that say nothing hide that a signature is wrong.
-/
namespace TokenAuth

namespace Content

variable {δ : Type} {fields : List (Field δ)} {f : Field δ} {c : Content}

theorem foldlM_eq_none {α : Type} {step : δ → α → Option δ} {xs : List α} {x : α}
    (hx : x ∈ xs) (h : ∀ d, step d x = none) (d : δ) : xs.foldlM step d = none := by
  induction xs generalizing d with
  | nil => simp at hx
  | cons y ys ih =>
    rw [List.foldlM_cons]
    rcases List.mem_cons.1 hx with rfl | hx
    · rw [h]
      rfl
    · cases step d y with
      | none => rfl
      | some d' => exact ih hx d'

/-- The value that a record gives for a field, by its name or by its place. -/
inductive Gives (fields : List (Field δ)) : Content → Field δ → Content → Prop
  | member {ms : List (Content × Content)} {name c : Content} {f : Field δ} (hmem : (name, c) ∈ ms)
      (hname : fieldNamed fields name = some (some f)) : Gives fields (.map ms) f c
  | element {xs : List Content} {n : Nat} {c : Content} {f : Field δ} (hf : fields[n]? = some f)
      (hc : xs[n]? = some c) : Gives fields (.list xs) f c

theorem mem_of_fieldNamed {name : Content} (h : fieldNamed fields name = some (some f)) :
    f ∈ fields := by
  unfold fieldNamed at h
  split at h
  · exact List.mem_of_find?_eq_some (Option.some.inj h)
  · exact List.mem_of_find?_eq_some (Option.some.inj h)
  · exact List.mem_of_getElem? (Option.some.inj h)
  · simp at h

theorem Gives.mem {record : Content} (h : Gives fields record f c) : f ∈ fields := by
  cases h with
  | member _ hname => exact mem_of_fieldNamed hname
  | element hf _ => exact List.mem_of_getElem? hf

/-- A value that its field refuses spoils the record, whatever else is in it. -/
theorem Gives.record?_eq_none {α : Type} {record : Content} (hgives : Gives fields record f c)
    (h : ∀ d, f.store d c = none) (draft : δ) (finish : δ → Option α) :
    record? fields draft finish record = none := by
  cases hgives with
  | @member ms name _ _ hmem hname =>
    have hstore : ∀ d, storeMember fields d (name, c) = none := by
      intro d
      simp only [storeMember, hname, h, ite_self]
    simp only [record?]
    rw [foldlM_eq_none hmem hstore]
    rfl
  | @element xs n _ _ hf hc =>
    have hmem : (f, c) ∈ fields.zip xs :=
      List.mem_of_getElem? (List.getElem?_zip_eq_some.2 ⟨hf, hc⟩)
    simp only [record?]
    split
    · rw [foldlM_eq_none hmem h]
      rfl
    · rfl

end Content

namespace Identity

/-- A name or an email address is given that is none. -/
def Rejected (user : Content) : Prop :=
  ∃ f c s, Content.Gives contentFields user f c ∧ c.text? = some s ∧
    ((f.name = "name" ∧ ∃ e, Username.ofText s = .error e) ∨
      f.name = "email" ∧ ∃ e, Email.ofText s = .error e)

theorem ofContent?_of_rejected {user : Content} (h : Rejected user) : ofContent? user = none := by
  obtain ⟨f, c, s, hgives, hs, hfield⟩ := h
  refine hgives.record?_eq_none ?_ _ _
  have hmem := hgives.mem
  simp only [contentFields, List.mem_cons, List.not_mem_nil, or_false] at hmem
  rcases hfield with ⟨hname, e, he⟩ | ⟨hname, e, he⟩
  · rcases hmem with rfl | rfl | rfl | rfl
    · simp at hname
    · simp [hs, name?, he, Except.toOption]
    · simp at hname
    · simp at hname
  · rcases hmem with rfl | rfl | rfl | rfl
    · simp at hname
    · simp at hname
    · simp [hs, email?, he, Except.toOption]
    · simp at hname

end Identity

namespace ClaimsFormat

/-- The members of claims, before they are taken as a record. -/
def draft? (f : ClaimsFormat) (bs : List UInt8) : Option Draft :=
  match f with
  | json => (Text.ofUtf8? bs).bind fun s => (Json.entries? s.toList).bind fun es =>
      es.foldlM addEntry Draft.empty
  | cbor => (Cbor.skipTags (bs.length + 1) bs).bind fun p =>
      if p.1.kind = .map then
        (Cbor.readItems readCborMember (p.2.length + 1) p.1.argument Draft.empty p.2).map (·.1)
      else none

theorem read_eq_finish (f : ClaimsFormat) (bs : List UInt8) :
    f.read bs = (f.draft? bs).bind Draft.finish := by
  cases f with
  | json =>
    simp only [read, draft?, readJson, Option.bind_eq_bind, Option.bind_assoc]
  | cbor =>
    simp only [read, draft?, readCbor, Option.bind_eq_bind, Option.bind_assoc]
    congr 1
    funext p
    split
    · rw [Option.bind_map]
      rfl
    · rfl

theorem read_of_rejected {f : ClaimsFormat} {bs : List UInt8} {d : Draft} {user : Content}
    (hd : f.draft? bs = some d) (huser : ("user", user) ∈ d.others)
    (h : Identity.Rejected user) : f.read bs = none := by
  have hmember : (Content.text "user", user) ∈
      d.others.reverse.map fun e => (Content.text e.1, e.2) :=
    List.mem_map.2 ⟨_, List.mem_reverse.2 huser, rfl⟩
  have hbody : ClaimsBody.ofEntries? d.others.reverse = none := by
    apply Content.Gives.record?_eq_none (.member hmember rfl)
    intro b
    simp [Identity.ofContent?_of_rejected h]
  rw [read_eq_finish, hd, Option.bind_some, Draft.finish, hbody]
  rfl

end ClaimsFormat

namespace Compact

open Text

/-- What becomes of a readable token of the right kind. -/
inductive CodeVerdict (kind : TokenKind) (key : SigningKey) (r : Reading) :
    Except TokenError Claims → Prop
  | notBase64 (hcode : ∀ bs, r.code ≠ segment bs) : CodeVerdict kind key r (.error .invalidSignature)
  | otherAlgorithm {bs : List UInt8} (hcode : r.code = segment bs)
      (halgorithm : r.header.algorithm ≠ TokenHeader.hs256) :
      CodeVerdict kind key r (.error (.malformed (.algorithm r.header.algorithm)))
  | otherLength {bs : List UInt8} (hcode : r.code = segment bs)
      (halgorithm : r.header.algorithm = TokenHeader.hs256) (hlength : bs.length ≠ 32) :
      CodeVerdict kind key r (.error .invalidSignature)
  | noClaims {bs : List UInt8} (hcode : r.code = segment bs)
      (halgorithm : r.header.algorithm = TokenHeader.hs256) (hlength : bs.length = 32)
      (hclaims : r.format.read r.claims = none) :
      CodeVerdict kind key r (.error (.malformed .claims))
  | forged {bs : List UInt8} {c : UntrustedClaims} (hcode : r.code = segment bs)
      (halgorithm : r.header.algorithm = TokenHeader.hs256) (hlength : bs.length = 32)
      (hclaims : r.format.read r.claims = some c) (hforged : bs ≠ signature key r.signed) :
      CodeVerdict kind key r (.error .invalidSignature)
  | noExpiry {c : UntrustedClaims} (hcode : r.code = segment (signature key r.signed))
      (halgorithm : r.header.algorithm = TokenHeader.hs256)
      (hclaims : r.format.read r.claims = some c) (hexpires : c.expires = none) :
      CodeVerdict kind key r (.error (.malformed .noExpiry))
  | accepted {c : UntrustedClaims} {expires : Instant}
      (hcode : r.code = segment (signature key r.signed))
      (halgorithm : r.header.algorithm = TokenHeader.hs256)
      (hclaims : r.format.read r.claims = some c) (hexpires : c.expires = some expires) :
      CodeVerdict kind key r (.ok ⟨kind, expires, c.body⟩)

/-- What becomes of any text that is taken for a token. -/
inductive Verdict (kind : TokenKind) (key : SigningKey) (cs : List Char) :
    Except TokenError Claims → Prop
  | unreadable {d : TokenDefect} (h : ∀ r : Reading, ¬ r.Fits cs) (hd : Defective cs d) :
      Verdict kind key cs (.error (.malformed d))
  | otherKind {r : Reading} (hr : r.Fits cs) (htag : r.header.kindTag ≠ some kind.tag) :
      Verdict kind key cs (.error (.kindMismatch kind r.header.kindTag))
  | ofKind {r : Reading} {result : Except TokenError Claims} (hr : r.Fits cs)
      (htag : r.header.kindTag = some kind.tag) (h : CodeVerdict kind key r result) :
      Verdict kind key cs result

variable {kind : TokenKind} {key : SigningKey} {r : Reading} {t : SignedToken}
  {result : Except TokenError Claims}

theorem judge_of_segment {bs : List UInt8} (hcode : r.code = segment bs) (kind : TokenKind)
    (key : SigningKey) : r.judge kind key = verify (r.withCode bs) kind key := by
  simp only [Reading.judge, hcode, readSegment_segment]

theorem CodeVerdict.judge_eq (h : CodeVerdict kind key r result) : r.judge kind key = result := by
  cases h with
  | notBase64 hcode => simp only [Reading.judge, readSegment_eq_none_iff.2 hcode]
  | otherAlgorithm hcode halgorithm =>
    rw [judge_of_segment hcode]
    exact if_pos halgorithm
  | otherLength hcode halgorithm hlength =>
    rw [judge_of_segment hcode]
    simp [verify, Reading.withCode, halgorithm, hlength]
  | noClaims hcode halgorithm hlength hclaims =>
    rw [judge_of_segment hcode]
    simp [verify, Reading.withCode, halgorithm, hlength, hclaims]
  | forged hcode halgorithm hlength hclaims hforged =>
    rw [judge_of_segment hcode]
    simp [verify, Reading.withCode, halgorithm, hlength, hclaims, hforged.symm]
  | noExpiry hcode halgorithm hclaims hexpires =>
    rw [judge_of_segment hcode]
    simp [verify, Reading.withCode, halgorithm, length_signature, hclaims, hexpires]
  | accepted hcode halgorithm hclaims hexpires =>
    rw [judge_of_segment hcode]
    simp [verify, Reading.withCode, halgorithm, length_signature, hclaims, hexpires]

theorem exists_codeVerdict (kind : TokenKind) (key : SigningKey) (r : Reading) :
    ∃ result, CodeVerdict kind key r result := by
  by_cases hcode : ∀ bs, r.code ≠ segment bs
  · exact ⟨_, .notBase64 hcode⟩
  push Not at hcode
  obtain ⟨bs, hcode⟩ := hcode
  by_cases halgorithm : r.header.algorithm = TokenHeader.hs256
  · by_cases hlength : bs.length = 32
    · cases hclaims : r.format.read r.claims with
      | none => exact ⟨_, .noClaims hcode halgorithm hlength hclaims⟩
      | some c =>
        by_cases hsigned : bs = signature key r.signed
        · rw [hsigned] at hcode
          cases hexpires : c.expires with
          | none => exact ⟨_, .noExpiry hcode halgorithm hclaims hexpires⟩
          | some e => exact ⟨_, .accepted hcode halgorithm hclaims hexpires⟩
        · exact ⟨_, .forged hcode halgorithm hlength hclaims hsigned⟩
    · exact ⟨_, .otherLength hcode halgorithm hlength⟩
  · exact ⟨_, .otherAlgorithm hcode halgorithm⟩

theorem Verdict.decode_eq (h : Verdict kind key t.text.toList result) :
    decode t kind key = result := by
  cases h with
  | unreadable h hd => exact decode_of_unreadable h hd kind key
  | otherKind hr htag => rw [decode_of_fits hr, if_neg htag]
  | ofKind hr htag h => rw [decode_of_fits hr, if_pos htag, h.judge_eq]

theorem exists_verdict (kind : TokenKind) (key : SigningKey) (cs : List Char) :
    ∃ result, Verdict kind key cs result := by
  by_cases hreadable : ∃ r : Reading, r.Fits cs
  · obtain ⟨r, hr⟩ := hreadable
    by_cases htag : r.header.kindTag = some kind.tag
    · obtain ⟨result, h⟩ := exists_codeVerdict kind key r
      exact ⟨result, .ofKind hr htag h⟩
    · exact ⟨_, .otherKind hr htag⟩
  · push Not at hreadable
    obtain ⟨d, hd⟩ := exists_defective hreadable
    exact ⟨_, .unreadable hreadable hd⟩

theorem verdict_decode (t : SignedToken) (kind : TokenKind) (key : SigningKey) :
    Verdict kind key t.text.toList (decode t kind key) := by
  obtain ⟨result, h⟩ := exists_verdict kind key t.text.toList
  rwa [h.decode_eq]

/-- All that has been checked of a token when its claims are taken. -/
structure Reading.Accepted (r : Reading) (kind : TokenKind) (key : SigningKey) (c : Claims) :
    Prop where
  tag_eq : r.header.kindTag = some kind.tag
  algorithm_eq : r.header.algorithm = TokenHeader.hs256
  code_eq : r.code = segment (signature key r.signed)
  claims_eq : r.format.read r.claims = some ⟨some c.expires, c.body⟩
  kind_eq : c.kind = kind

theorem accepted_of_decode {c : Claims} (h : decode t kind key = .ok c) :
    ∃ r : Reading, r.Fits t.text.toList ∧ r.Accepted kind key c := by
  have hverdict := verdict_decode t kind key
  rw [h] at hverdict
  cases hverdict with
  | ofKind hr htag h =>
    cases h with
    | accepted hcode halgorithm hclaims hexpires =>
      exact ⟨_, hr, htag, halgorithm, hcode, by rw [hclaims, ← hexpires], rfl⟩

/-- Every token has one verdict, and that is what it is decoded as. Among the claims that cannot be read
are all that give a name or an email address that is none. -/
theorem decode_eq_iff_verdict (t : SignedToken) (kind : TokenKind) (key : SigningKey) :
    (∀ result, decode t kind key = result ↔ Verdict kind key t.text.toList result) ∧
    ∀ (f : ClaimsFormat) (bs : List UInt8) (d : ClaimsFormat.Draft) (user : Content),
      f.draft? bs = some d → ("user", user) ∈ d.others → Identity.Rejected user →
        f.read bs = none := by
  refine ⟨fun result => ⟨?_, fun h => h.decode_eq⟩, ?_⟩
  · rintro rfl
    exact verdict_decode t kind key
  · intro f bs d user hd huser hrejected
    exact ClaimsFormat.read_of_rejected hd huser hrejected

def sampleKey : SigningKey := ⟨"abcdefghijkl", by decide⟩

/-- A token with the right header, no claims in its claims and zeros for a signature. -/
def hollowToken : SignedToken where
  text := "eyJhbGciOiJIUzI1NiIsInR5cCI6ImFjY2Vzcy10a24ifQ.e30." ++
    "AAAAAAAAAAAAAAAAAAAAAAAAAAAAAAAAAAAAAAAAAAA"
  text_ne := by decide
  text_trimmed := by decide +kernel

def hollowReading : Reading where
  header := ⟨TokenHeader.hs256, none, some TokenKind.access.tag⟩
  format := .json
  claims := [123, 125]
  signed := "eyJhbGciOiJIUzI1NiIsInR5cCI6ImFjY2Vzcy10a24ifQ.e30".toList
  code := segment (List.replicate 32 0)

theorem fits_hollowToken : hollowReading.Fits hollowToken.text.toList where
  text_eq := by decide
  dot_not_mem := dot_not_mem_segment _
  signed_eq := by
    refine ⟨utf8 (String.ofList (TokenHeader.render .access)), by decide, _, rfl, ?_⟩
    rw [String.toList_ofList]
    exact TokenHeader.read?_render .access
  names := .unnamed

/-- Claims with a user without a name. -/
def namelessClaims : List UInt8 :=
  utf8 (String.ofList (Json.renderObject [("user", Json.renderObject [("name", Json.renderText "")])]))

theorem draft?_namelessClaims : ClaimsFormat.json.draft? namelessClaims =
    some ⟨[], [("user", .map [(.text "name", .text "")])]⟩ := by
  have hentries : Json.entries? (Json.renderObject
      [("user", Json.renderObject [("name", Json.renderText "")])]) =
        some [("user", .map [(.text "name", .text "")])] := by
    apply Json.entries?_renderObject
    have hname : Json.WritesMembers 125 [("name", Json.renderText "")] [("name", .text "")] :=
      .cons ⟨rfl, Json.writes_text _ _⟩ .nil
    exact .cons ⟨rfl, Json.writes_object hname⟩ .nil
  simp only [ClaimsFormat.draft?, namelessClaims, ofUtf8?_utf8, Option.bind_some,
    String.toList_ofList, hentries]
  rfl

theorem decode_eq_iff_verdict_sample :
    (Verdict .access sampleKey hollowToken.text.toList (.error (.malformed .claims)) ∧
      decode hollowToken .access sampleKey = .error (.malformed .claims)) ∧
    Identity.Rejected (.map [(.text "name", .text "")]) ∧
      ClaimsFormat.json.read namelessClaims = none := by
  obtain ⟨hdecode, hclaims⟩ := decode_eq_iff_verdict hollowToken .access sampleKey
  have hverdict : Verdict .access sampleKey hollowToken.text.toList
      (.error (.malformed .claims)) :=
    .ofKind fits_hollowToken rfl (.noClaims rfl rfl rfl rfl)
  have hrejected : Identity.Rejected (.map [(.text "name", .text "")]) :=
    ⟨_, .text "", "", .member (List.mem_singleton.2 rfl) rfl, rfl, Or.inl ⟨rfl, .length, rfl⟩⟩
  exact ⟨⟨hverdict, (hdecode _).2 hverdict⟩, hrejected,
    hclaims .json _ _ _ draft?_namelessClaims (List.mem_singleton.2 rfl) hrejected⟩

/-- The signature is wrong, and yet it is the claims that the token is refused for. -/
theorem decode_hollowToken_ne_invalidSignature :
    hollowReading.Fits hollowToken.text.toList ∧
      hollowReading.header.kindTag = some TokenKind.access.tag ∧
      hollowReading.header.algorithm = TokenHeader.hs256 ∧
      hollowReading.code = segment (List.replicate 32 0) ∧
      List.replicate 32 0 ≠ signature sampleKey hollowReading.signed ∧
      decode hollowToken .access sampleKey ≠ .error .invalidSignature ∧
      decode hollowToken .access sampleKey = .error (.malformed .claims) := by
  have hverdict : Verdict .access sampleKey hollowToken.text.toList
      (.error (.malformed .claims)) :=
    .ofKind fits_hollowToken rfl (.noClaims rfl rfl rfl rfl)
  have hdecode := hverdict.decode_eq
  refine ⟨fits_hollowToken, rfl, rfl, rfl, ?_, ?_, hdecode⟩
  · decide +kernel
  · rw [hdecode]
    simp

end Compact

end TokenAuth
