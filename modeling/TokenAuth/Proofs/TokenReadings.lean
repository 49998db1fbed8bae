import TokenAuth.Proofs.TokenRoundTrip

/-!
What can be read of a token before its signature is looked at. A token is readable if its header and its
claims are segments of base64 and the header is understood, whatever text stands in the place of the
signature. A readable token is of a wrong kind, or has no signature that could be read, or is left to
verification; of any other token it is known what keeps it from being read.
-/
namespace TokenAuth

namespace Text

theorem length_parts (d : Char) (cs : List Char) : (parts d cs).length = cs.count d + 1 := by
  induction cs with
  | nil => rfl
  | cons c r ih =>
    by_cases hc : c = d
    · simp [parts, hc, ih]
    · cases hparts : parts d r with
      | nil => exact absurd hparts (parts_ne_nil d r)
      | cons p ps =>
        rw [hparts] at ih
        simpa [parts, hc, hparts] using ih

/-- There is either no separator or a first one. -/
theorem parts_cases (d : Char) (cs : List Char) :
    (d ∉ cs ∧ parts d cs = [cs]) ∨
      ∃ a b, cs = a ++ d :: b ∧ d ∉ a ∧ parts d cs = a :: parts d b := by
  by_cases h : d ∈ cs
  · obtain ⟨a, b, hcut, ha⟩ := List.eq_append_cons_of_mem h
    exact Or.inr ⟨a, b, hcut, ha, by rw [hcut, parts_append d a b ha]⟩
  · exact Or.inl ⟨h, parts_of_not_mem h⟩

theorem parts_eq_singleton {d : Char} {cs a : List Char} (h : parts d cs = [a]) :
    cs = a ∧ d ∉ a := by
  rcases parts_cases d cs with ⟨hcs, hparts⟩ | ⟨_, b, -, -, hparts⟩
  · rw [hparts] at h
    rw [← List.singleton_inj.1 h]
    exact ⟨rfl, hcs⟩
  · rw [hparts] at h
    exact absurd (List.cons.inj h).2 (parts_ne_nil d b)

theorem parts_eq_cons_cons {d : Char} {cs a b : List Char} {ps : List (List Char)}
    (h : parts d cs = a :: b :: ps) : ∃ r, cs = a ++ d :: r ∧ d ∉ a ∧ parts d r = b :: ps := by
  rcases parts_cases d cs with ⟨-, hparts⟩ | ⟨a', r, hcut, ha, hparts⟩
  · rw [hparts] at h
    simp at h
  · rw [hparts] at h
    obtain ⟨rfl, hrest⟩ := List.cons.inj h
    exact ⟨r, hcut, ha, hrest⟩

theorem parts_eq_three_iff {d : Char} {cs a b c : List Char} :
    parts d cs = [a, b, c] ↔ cs = a ++ d :: (b ++ d :: c) ∧ d ∉ a ∧ d ∉ b ∧ d ∉ c := by
  constructor
  · intro h
    obtain ⟨r, rfl, ha, hr⟩ := parts_eq_cons_cons h
    obtain ⟨q, rfl, hb, hq⟩ := parts_eq_cons_cons hr
    obtain ⟨rfl, hc⟩ := parts_eq_singleton hq
    exact ⟨rfl, ha, hb, hc⟩
  · rintro ⟨rfl, ha, hb, hc⟩
    rw [parts_append d a _ ha, parts_append d b _ hb, parts_of_not_mem hc]

/-- A text with two separators has three parts. -/
theorem exists_parts_of_count {d : Char} {cs : List Char} (h : cs.count d = 2) :
    ∃ a b c, parts d cs = [a, b, c] := by
  have hlength := length_parts d cs
  rw [h] at hlength
  exact List.length_eq_three.1 hlength

end Text

namespace ClaimsFormat

/-- What a header says about the format of claims, in letters of either case or not at all. -/
inductive Names : Option String → ClaimsFormat → Prop
  | unnamed : Names none .json
  | json {s : String} (h : s.toList.map Char.toLower = "json".toList) : Names (some s) .json
  | cbor {s : String} (h : s.toList.map Char.toLower = "cbor".toList) : Names (some s) .cbor

theorem ofContentType?_eq_some_iff {contentType : Option String} {f : ClaimsFormat} :
    ofContentType? contentType = some f ↔ Names contentType f := by
  constructor
  · intro h
    unfold ofContentType? at h
    split at h
    · rw [← Option.some.inj h]
      exact .unnamed
    · next s =>
      dsimp only at h
      split at h
      · next hjson =>
        rw [← Option.some.inj h]
        exact .json hjson
      · split at h
        · next hcbor =>
          rw [← Option.some.inj h]
          exact .cbor hcbor
        · simp at h
  · intro h
    cases h with
    | unnamed => rfl
    | json h => simp only [ofContentType?, h, if_true]
    | cbor h =>
      have hother : "cbor".toList ≠ "json".toList := by decide
      simp only [ofContentType?, h, if_neg hother, if_true]

end ClaimsFormat

namespace Compact

open Text

theorem readSegment_eq_some_iff {cs : List Char} {bs : List UInt8} :
    readSegment cs = some bs ↔ cs = segment bs := Base64.decode_eq_some_iff

theorem readSegment_eq_none_iff {cs : List Char} :
    readSegment cs = none ↔ ∀ bs, cs ≠ segment bs := by
  rw [Option.eq_none_iff_forall_ne_some]
  exact forall_congr' fun _ => not_congr readSegment_eq_some_iff

/-- The bytes of a header. -/
def IsHeader (bs : List UInt8) (h : TokenHeader) : Prop :=
  ∃ text, bs = utf8 text ∧ TokenHeader.read? text.toList = some h

theorem isHeader_iff {bs : List UInt8} {h : TokenHeader} :
    ((ofUtf8? bs).bind fun t => TokenHeader.read? t.toList) = some h ↔ IsHeader bs h := by
  rw [Option.bind_eq_some_iff]
  constructor
  · rintro ⟨text, htext, hread⟩
    exact ⟨text, (utf8_of_ofUtf8? htext).symm, hread⟩
  · rintro ⟨text, rfl, hread⟩
    exact ⟨text, ofUtf8?_utf8 text, hread⟩

/-- A token as far as it is read without its signature. The code is the text in the place of the
signature. -/
structure Reading where
  header : TokenHeader
  format : ClaimsFormat
  claims : List UInt8
  signed : List Char
  code : List Char

/-- There are three segments, and the first two can be read. -/
structure Reading.Fits (r : Reading) (cs : List Char) : Prop where
  text_eq : cs = r.signed ++ '.' :: r.code
  dot_not_mem : '.' ∉ r.code
  signed_eq : ∃ header, r.signed = segment header ++ '.' :: segment r.claims ∧
    IsHeader header r.header
  names : ClaimsFormat.Names r.header.contentType r.format

/-- What keeps a text from being read as a token. -/
inductive Defective (cs : List Char) : TokenDefect → Prop
  | segments (h : cs.count '.' ≠ 2) : Defective cs .segments
  | base64 {header claims code : List Char} (hparts : parts '.' cs = [header, claims, code])
      (h : ∃ s ∈ [header, claims, code], ∀ bs, s ≠ segment bs) : Defective cs .base64
  | header {header claims code : List UInt8}
      (hparts : parts '.' cs = [segment header, segment claims, segment code])
      (h : ∀ read, ¬ IsHeader header read) : Defective cs .header
  | contentType {header claims code : List UInt8} {read : TokenHeader} {found : String}
      (hparts : parts '.' cs = [segment header, segment claims, segment code])
      (hread : IsHeader header read) (hfound : read.contentType = some found)
      (h : ∀ f, ¬ ClaimsFormat.Names (some found) f) : Defective cs (.contentType found)

namespace Reading

variable {r : Reading} {cs : List Char}

def withCode (r : Reading) (bs : List UInt8) : Untrusted :=
  ⟨r.header, r.format, r.claims, bs, r.signed⟩

/-- Another text in the place of the signature makes no difference to the rest. -/
theorem Fits.replace (h : r.Fits cs) {code : List Char} (hdot : '.' ∉ code) :
    Fits { r with code } (r.signed ++ '.' :: code) :=
  ⟨rfl, hdot, h.signed_eq, h.names⟩

theorem Fits.cutLast (h : r.Fits cs) : cutLast '.' cs = some (r.signed, r.code) := by
  rw [h.text_eq]
  exact cutLast_append '.' _ _ h.dot_not_mem

theorem Fits.eq_of_append {signed code : List Char} (h : r.Fits (signed ++ '.' :: code))
    (hdot : '.' ∉ code) : r.signed = signed ∧ r.code = code := by
  have hcut := h.cutLast
  rw [cutLast_append '.' signed code hdot, Option.some.injEq, Prod.mk.injEq] at hcut
  exact ⟨hcut.1.symm, hcut.2.symm⟩

theorem Fits.parts (h : r.Fits cs) : ∃ header, IsHeader header r.header ∧
    r.signed = segment header ++ '.' :: segment r.claims ∧
    parts '.' cs = [segment header, segment r.claims, r.code] := by
  obtain ⟨header, hsigned, hheader⟩ := h.signed_eq
  refine ⟨header, hheader, hsigned, parts_eq_three_iff.2 ⟨?_, dot_not_mem_segment _,
    dot_not_mem_segment _, h.dot_not_mem⟩⟩
  rw [h.text_eq, hsigned]
  simp

theorem Fits.read_eq (h : r.Fits cs) :
    read cs = match readSegment r.code with
      | some bs => .ok (r.withCode bs)
      | none => .error .base64 := by
  obtain ⟨header, hheader, hsigned, hparts⟩ := h.parts
  have hformat := ClaimsFormat.ofContentType?_eq_some_iff.2 h.names
  simp only [read, hparts, readSegments, readSegment_segment]
  cases readSegment r.code with
  | none => rfl
  | some bs => simp only [isHeader_iff.2 hheader, hformat, withCode, hsigned]

end Reading

theorem read_of_count {cs : List Char} (h : cs.count '.' ≠ 2) : read cs = .error .segments := by
  unfold read
  split
  · next hparts =>
    have hlength := length_parts '.' cs
    rw [hparts] at hlength
    simp only [List.length_cons, List.length_nil] at hlength
    omega
  · rfl

theorem read_of_parts {cs header claims code : List Char}
    (h : parts '.' cs = [header, claims, code]) : read cs = readSegments header claims code := by
  simp only [read, h]

theorem readSegments_of_not_base64 {header claims code : List Char}
    (h : ∃ s ∈ [header, claims, code], ∀ bs, s ≠ segment bs) :
    readSegments header claims code = .error .base64 := by
  obtain ⟨s, hs, hnone⟩ := h
  have hread := readSegment_eq_none_iff.2 hnone
  simp only [List.mem_cons, List.not_mem_nil, or_false] at hs
  unfold readSegments
  split
  · next hheader hclaims hcode =>
    rcases hs with rfl | rfl | rfl
    · simp [hread] at hheader
    · simp [hread] at hclaims
    · simp [hread] at hcode
  · rfl

/-- What is left to go wrong with three segments of base64 is the header. -/
theorem defective_of_segments {cs : List Char} {header claims code : List UInt8} {d : TokenDefect}
    (hparts : parts '.' cs = [segment header, segment claims, segment code])
    (h : read cs = .error d) : Defective cs d := by
  simp only [read_of_parts hparts, readSegments, readSegment_segment] at h
  split at h
  · next hnone =>
    rw [← Except.error.inj h]
    refine .header hparts fun read hread => ?_
    rw [isHeader_iff.2 hread] at hnone
    simp at hnone
  · next read hread =>
    split at h
    · simp at h
    · next hnone =>
      have hunnamed : ∀ f, ¬ ClaimsFormat.Names read.contentType f := by
        intro f hf
        rw [ClaimsFormat.ofContentType?_eq_some_iff.2 hf] at hnone
        simp at hnone
      rw [← Except.error.inj h]
      cases hfound : read.contentType with
      | none =>
        rw [hfound] at hunnamed
        exact absurd .unnamed (hunnamed .json)
      | some found =>
        rw [hfound] at hunnamed
        exact .contentType hparts (isHeader_iff.1 hread) hfound hunnamed

theorem defective_of_read {cs : List Char} {d : TokenDefect} (h : read cs = .error d) :
    Defective cs d := by
  by_cases hcount : cs.count '.' = 2
  · obtain ⟨header, claims, code, hparts⟩ := exists_parts_of_count hcount
    by_cases hbase64 : ∃ s ∈ [header, claims, code], ∀ bs, s ≠ segment bs
    · rw [read_of_parts hparts, readSegments_of_not_base64 hbase64] at h
      rw [← Except.error.inj h]
      exact .base64 hparts hbase64
    · push Not at hbase64
      obtain ⟨_, rfl⟩ := hbase64 header (by simp)
      obtain ⟨_, rfl⟩ := hbase64 claims (by simp)
      obtain ⟨_, rfl⟩ := hbase64 code (by simp)
      exact defective_of_segments hparts h
  · rw [read_of_count hcount] at h
    rw [← Except.error.inj h]
    exact .segments hcount

theorem Defective.read_eq {cs : List Char} {d : TokenDefect} (h : Defective cs d) :
    read cs = .error d := by
  cases h with
  | segments h => exact read_of_count h
  | base64 hparts h => rw [read_of_parts hparts, readSegments_of_not_base64 h]
  | header hparts h =>
    rw [read_of_parts hparts]
    simp only [readSegments, readSegment_segment]
    split
    · rfl
    · next read hread => exact absurd (isHeader_iff.1 hread) (h read)
  | contentType hparts hread hfound h =>
    have hunnamed : ClaimsFormat.ofContentType? (some _) = none :=
      Option.eq_none_iff_forall_ne_some.2 fun f hf =>
        h f (ClaimsFormat.ofContentType?_eq_some_iff.1 hf)
    rw [read_of_parts hparts]
    simp only [readSegments, readSegment_segment, isHeader_iff.2 hread, hfound, hunnamed,
      Option.getD_some]

/-- What has been read as a token fits a reading. -/
theorem exists_fits_of_read {cs : List Char} {u : Untrusted} (h : read cs = .ok u) :
    ∃ r : Reading, r.Fits cs := by
  unfold read at h
  split at h
  · next header claims code hparts =>
    obtain ⟨hcs, -, -, hdot⟩ := parts_eq_three_iff.1 hparts
    unfold readSegments at h
    split at h
    · next hheader hclaims _ =>
      rw [readSegment_eq_some_iff] at hheader hclaims
      split at h
      · simp at h
      · next read hread =>
        split at h
        · next f hf =>
          refine ⟨⟨read, f, _, header ++ '.' :: claims, code⟩, by rw [hcs]; simp, hdot,
            ⟨_, by rw [hheader, hclaims], isHeader_iff.1 hread⟩,
            ClaimsFormat.ofContentType?_eq_some_iff.1 hf⟩
        · simp at h
    · simp at h
  · simp at h

theorem exists_defective {cs : List Char} (h : ∀ r : Reading, ¬ r.Fits cs) :
    ∃ d, Defective cs d := by
  cases hread : read cs with
  | error d => exact ⟨d, defective_of_read hread⟩
  | ok u =>
    obtain ⟨r, hr⟩ := exists_fits_of_read hread
    exact absurd hr (h r)

theorem length_signature (key : SigningKey) (signed : List Char) :
    (signature key signed).length = 32 := Crypto.Hmac.length_code _ _

/-- The outcome of verification, given the kind. A code that is not in base64 counts as wrong. -/
def Reading.judge (r : Reading) (kind : TokenKind) (key : SigningKey) : Except TokenError Claims :=
  match readSegment r.code with
  | some bs => verify (r.withCode bs) kind key
  | none => .error .invalidSignature

/-- The kind of a readable token is looked at before everything else. -/
theorem decode_of_fits {t : SignedToken} {r : Reading} (h : r.Fits t.text.toList) (kind : TokenKind)
    (key : SigningKey) :
    decode t kind key =
      if r.header.kindTag = some kind.tag then r.judge kind key
      else .error (.kindMismatch kind r.header.kindTag) := by
  have hkind : ∀ bs, checkKind (r.withCode bs) kind =
      if r.header.kindTag = some kind.tag then .ok ()
      else .error (.kindMismatch kind r.header.kindTag) := fun _ => rfl
  simp only [decode, h.read_eq, Reading.judge]
  cases hcode : readSegment r.code with
  | some bs =>
    by_cases htag : r.header.kindTag = some kind.tag
    · simp only [hkind, if_pos htag]
    · simp only [hkind, if_neg htag]
  | none =>
    -- The text is read once more with nothing in the place of the signature.
    have hempty : read (r.signed ++ ['.']) = .ok (r.withCode []) :=
      (h.replace List.not_mem_nil).read_eq
    by_cases htag : r.header.kindTag = some kind.tag
    · simp only [refusal, h.cutLast, hempty, hkind, if_pos htag]
    · simp only [refusal, h.cutLast, hempty, hkind, if_neg htag]

theorem decode_of_unreadable {t : SignedToken} (h : ∀ r : Reading, ¬ r.Fits t.text.toList)
    {d : TokenDefect} (hd : Defective t.text.toList d) (kind : TokenKind) (key : SigningKey) :
    decode t kind key = .error (.malformed d) := by
  simp only [decode, hd.read_eq, refusal]
  split
  · rfl
  · next signed code hcut =>
    split
    · rfl
    · next u hu =>
      -- Had it been read without its signature, it would be readable with it.
      obtain ⟨htext, hdot⟩ := cutLast_eq_some hcut
      obtain ⟨r, hr⟩ := exists_fits_of_read hu
      obtain ⟨hsigned, -⟩ := hr.eq_of_append List.not_mem_nil
      have hfits := hr.replace hdot
      rw [hsigned, ← htext] at hfits
      exact absurd hfits (h _)

end Compact

end TokenAuth
