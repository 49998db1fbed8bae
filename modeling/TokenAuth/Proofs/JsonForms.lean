import TokenAuth.Proofs.ClaimsText
import TokenAuth.Proofs.JsonTails
import TokenAuth.Proofs.TokensText

/-!
Values of the known types as JSON. Every value is read from the text that is written for it. A text that
is accepted need not be that text, since members may come in any order, among others, with spaces and
escapes; but the text that is written for its value stands in for it. Names, addresses and tokens in such
a value are made by their constructors, of strings that stand in the text.
-/
namespace TokenAuth

namespace Json

/-- How values of a type are read and written. -/
structure Form (α : Type) where
  read : Reader α
  render : α → List Char

namespace Form

variable {α : Type} {F : Form α}

/-- The text of the value that a text is read as. -/
def normal (F : Form α) (cs : List Char) : Except Fault (List Char) :=
  (readAll F.read cs).map F.render

/-- Values are read from their texts, and an accepted text has one text for the same value, which is its
own. -/
structure Lawful (F : Form α) : Prop where
  faithful : ∀ a, readAll F.read (F.render a) = .ok a
  normal_normal : ∀ cs cs', F.normal cs = .ok cs' →
    readAll F.read cs' = readAll F.read cs ∧ F.normal cs' = .ok cs'

theorem lawful_of_exact (h : ∀ a r, F.read (F.render a ++ r) = .ok (a, r)) : F.Lawful := by
  have hfaithful : ∀ a, readAll F.read (F.render a) = .ok a := by
    intro a
    have hread := h a []
    rw [List.append_nil] at hread
    simp only [readAll, hread]
    rfl
  refine ⟨hfaithful, ?_⟩
  intro cs cs' hnormal
  obtain ⟨a, hread, rfl⟩ := map_eq_ok_iff.1 hnormal
  exact ⟨by rw [hfaithful, hread], map_eq_ok_iff.2 ⟨a, hfaithful a, rfl⟩⟩

end Form

theorem exists_read_of_readAll {α : Type} {read : Reader α} {cs : List Char} {a : α}
    (h : readAll read cs = .ok a) : ∃ r, read cs = .ok (a, r) := by
  unfold readAll at h
  split at h
  · simp at h
  · next a' r hread =>
    split at h
    · rw [← Except.ok.inj h]
      exact ⟨r, hread⟩
    · simp at h

theorem readOptionalText_renderText (s : String) (r : List Char) :
    readOptionalText (renderText s ++ r) = .ok (some s, r) := by
  have hread := readText_renderText s r
  rw [renderText_append] at hread ⊢
  change (readText _).map (fun p => (some p.1, p.2)) = _
  rw [hread]
  rfl

theorem readName_renderText {α : Type} {ofName : String → Option α} {s : String} {a : α}
    (h : ofName s = some a) (r : List Char) : readName ofName (renderText s ++ r) = .ok (a, r) := by
  have hread := readVia_renderText ofName h r
  rw [renderText_append] at hread ⊢
  exact hread

end Json

open Json

variable {text : List Char}

namespace Identity

theorem readJson_render (i : Identity) (r : List Char) : readJson (i.render ++ r) = .ok (i, r) := by
  have hleads : Leads (readMember jsonFields) Draft.empty [
      ("id", renderInt i.id.toInt), ("name", renderText i.name.text),
      ("email", renderText i.email.text), ("created", quoted (Rfc3339.render i.created))]
      ⟨some i.id, some i.name, some i.email, some i.created⟩ := by
    have hnames : (jsonFields.map Field.name).Nodup := by decide
    refine .next (t := ⟨some i.id, none, none, none⟩)
        (readMember_field hnames (.head _) rfl rfl ?_)
      (.next (t := ⟨some i.id, some i.name, none, none⟩)
        (readMember_field hnames (.tail _ (.head _)) rfl rfl ?_)
      (.next (t := ⟨some i.id, some i.name, some i.email, none⟩)
        (readMember_field hnames (.tail _ (.tail _ (.head _))) rfl rfl ?_)
      (.next (readMember_field hnames (.tail _ (.tail _ (.tail _ (.head _)))) rfl rfl ?_)
        (.done _))))
    · intro r hr
      simp only [readInt64_renderInt i.id hr, Except.map]
      rfl
    · intro r _
      simp only [readVia_renderText name? (name?_text i.name), Except.map]
    · intro r _
      simp only [readVia_renderText email? (email?_text i.email), Except.map]
    · intro r _
      simp only [quoted_render, readVia_renderText created? (created?_render i.created), Except.map]
  exact readRecord_renderObject jsonFields Draft.finish hleads rfl r

/-- The fields that are read from strings are made of strings in the text. -/
structure From (text : List Char) (i : Identity) : Prop where
  name : Made name? text i.name
  email : Made email? text i.email
  created : Made created? text i.created

/-- The same for those fields that have been read so far. -/
structure Draft.From (text : List Char) (d : Draft) : Prop where
  name : ∀ u, d.name = some u → Made name? text u
  email : ∀ e, d.email = some e → Made email? text e
  created : ∀ t, d.created = some t → Made created? text t

theorem From.of_suffix {cs : List Char} {i : Identity} (h : From cs i) (hcs : cs <:+ text) :
    From text i := ⟨h.name.of_suffix hcs, h.email.of_suffix hcs, h.created.of_suffix hcs⟩

theorem keeps_jsonFields : ∀ f ∈ jsonFields, Keeps text (Draft.From text) f.read := by
  simp only [jsonFields, List.forall_mem_cons]
  refine ⟨keeps_field ?_, keeps_field ?_, keeps_field ?_, keeps_field ?_, by simp⟩
  · intro d n cs r hcs hd hread
    exact ⟨readInt64_suffix hread, hd.name, hd.email, hd.created⟩
  · intro d u cs r hcs hd hread
    obtain ⟨htail, hmade⟩ := made_of_readVia hcs hread
    refine ⟨htail, ?_, hd.email, hd.created⟩
    rintro _ ⟨⟩
    exact hmade
  · intro d e cs r hcs hd hread
    obtain ⟨htail, hmade⟩ := made_of_readVia hcs hread
    refine ⟨htail, hd.name, ?_, hd.created⟩
    rintro _ ⟨⟩
    exact hmade
  · intro d t cs r hcs hd hread
    obtain ⟨htail, hmade⟩ := made_of_readVia hcs hread
    refine ⟨htail, hd.name, hd.email, ?_⟩
    rintro _ ⟨⟩
    exact hmade

theorem from_of_readJson {r : List Char} {i : Identity} (h : readJson text = .ok (i, r)) :
    r <:+ text ∧ i.From text := by
  have hempty : Draft.From text .empty := ⟨by simp [Draft.empty], by simp [Draft.empty],
    by simp [Draft.empty]⟩
  obtain ⟨htail, d, hd, hfinish⟩ := readRecord_keeps keeps_jsonFields hempty h
  simp only [Draft.finish, Option.bind_eq_bind, Option.bind_eq_some_iff, Option.pure_def,
    Option.some.injEq] at hfinish
  obtain ⟨id, -, name, hname, email, hemail, created, hcreated, rfl⟩ := hfinish
  exact ⟨htail, hd.name _ hname, hd.email _ hemail, hd.created _ hcreated⟩

end Identity

namespace ClaimsBody

theorem readJson_render (b : ClaimsBody) (r : List Char) : readJson (b.render ++ r) = .ok (b, r) := by
  have hfinish : Draft.finish ⟨some b.user, some b.subject, b.idHash.map some⟩ = some b := by
    obtain ⟨user, subject, idHash⟩ := b
    cases idHash <;> rfl
  have hleads : Leads (readMember jsonFields) Draft.empty b.members
      ⟨some b.user, some b.subject, b.idHash.map some⟩ := by
    have hnames : (jsonFields.map Field.name).Nodup := by decide
    have huser : ∀ r, EndsMember r → readMember jsonFields .empty
        ("user".toList.flatMap escape ++ '"' :: ':' :: (b.user.render ++ r)) =
          .ok (⟨some b.user, none, none⟩, r) := by
      refine readMember_field hnames (.head _) rfl rfl ?_
      intro r _
      simp only [b.user.readJson_render, Except.map]
      rfl
    have hsubject : ∀ r, EndsMember r → readMember jsonFields ⟨some b.user, none, none⟩
        ("sub".toList.flatMap escape ++ '"' :: ':' :: (renderText b.subject ++ r)) =
          .ok (⟨some b.user, some b.subject, none⟩, r) := by
      refine readMember_field hnames (.tail _ (.head _)) rfl rfl ?_
      intro r _
      simp only [readText_renderText, Except.map]
    unfold members
    cases b.idHash with
    | none => exact .next huser (.next hsubject (.done _))
    | some h =>
      refine .next huser (.next hsubject (.next ?_ (.done _)))
      refine readMember_field hnames (.tail _ (.tail _ (.head _))) rfl rfl ?_
      intro r _
      simp only [readOptionalText_renderText, Except.map]
      rfl
  exact readRecord_renderObject jsonFields Draft.finish hleads hfinish r

structure From (text : List Char) (b : ClaimsBody) : Prop where
  user : b.user.From text
  subject : Quotes text b.subject
  idHash : ∀ h, b.idHash = some h → Quotes text h

structure Draft.From (text : List Char) (d : Draft) : Prop where
  user : ∀ i, d.user = some i → i.From text
  subject : ∀ s, d.subject = some s → Quotes text s
  idHash : ∀ h, d.idHash = some (some h) → Quotes text h

theorem keeps_jsonFields : ∀ f ∈ jsonFields, Keeps text (Draft.From text) f.read := by
  simp only [jsonFields, List.forall_mem_cons]
  refine ⟨keeps_field ?_, keeps_field ?_, keeps_field ?_, by simp⟩
  · intro d i cs r hcs hd hread
    obtain ⟨htail, hfrom⟩ := Identity.from_of_readJson hread
    refine ⟨htail, ?_, hd.subject, hd.idHash⟩
    rintro _ ⟨⟩
    exact hfrom.of_suffix hcs
  · intro d s cs r hcs hd hread
    obtain ⟨htail, hquotes⟩ := quotes_of_readText hcs hread
    refine ⟨htail, hd.user, ?_, hd.idHash⟩
    rintro _ ⟨⟩
    exact hquotes
  · intro d h cs r hcs hd hread
    obtain ⟨htail, hquotes⟩ := quotes_of_readOptionalText hcs hread
    refine ⟨htail, hd.user, hd.subject, ?_⟩
    rintro _ ⟨⟩
    exact hquotes _ rfl

theorem from_of_readJson {r : List Char} {b : ClaimsBody} (h : readJson text = .ok (b, r)) :
    r <:+ text ∧ b.From text := by
  have hempty : Draft.From text .empty := ⟨by simp [Draft.empty], by simp [Draft.empty],
    by simp [Draft.empty]⟩
  obtain ⟨htail, d, hd, hfinish⟩ := readRecord_keeps keeps_jsonFields hempty h
  simp only [Draft.finish, Option.bind_eq_bind, Option.bind_eq_some_iff, Option.pure_def,
    Option.some.injEq] at hfinish
  obtain ⟨user, huser, subject, hsubject, rfl⟩ := hfinish
  refine ⟨htail, hd.user _ huser, hd.subject _ hsubject, ?_⟩
  -- A tag that is missing or null comes from no string.
  intro h hhash
  apply hd.idHash h
  cases hgiven : d.idHash with
  | none => simp [hgiven] at hhash
  | some given => simpa [hgiven] using hhash

end ClaimsBody

def SignedToken.From (text : List Char) (t : SignedToken) : Prop :=
  Made (fun s => (SignedToken.ofText s).toOption) text t

namespace Tokens

structure From (text : List Char) (t : Tokens) : Prop where
  tokenType : Quotes text t.tokenType
  accessToken : t.accessToken.From text
  refreshToken : t.refreshToken.From text

structure Draft.From (text : List Char) (d : Draft) : Prop where
  tokenType : ∀ s, d.tokenType = some s → Quotes text s
  accessToken : ∀ t, d.accessToken = some t → t.From text
  refreshToken : ∀ t, d.refreshToken = some t → t.From text

theorem keeps_jsonFields : ∀ f ∈ jsonFields, Keeps text (Draft.From text) f.read := by
  simp only [jsonFields, List.forall_mem_cons]
  refine ⟨keeps_field ?_, keeps_field ?_, keeps_field ?_, keeps_field ?_, by simp⟩
  · intro d s cs r hcs hd hread
    obtain ⟨htail, hquotes⟩ := quotes_of_readText hcs hread
    refine ⟨htail, ?_, hd.accessToken, hd.refreshToken⟩
    rintro _ ⟨⟩
    exact hquotes
  · intro d t cs r hcs hd hread
    obtain ⟨htail, hmade⟩ := made_of_readVia hcs hread
    refine ⟨htail, hd.tokenType, ?_, hd.refreshToken⟩
    rintro _ ⟨⟩
    exact hmade
  · intro d n cs r hcs hd hread
    exact ⟨readInt64_suffix hread, hd.tokenType, hd.accessToken, hd.refreshToken⟩
  · intro d t cs r hcs hd hread
    obtain ⟨htail, hmade⟩ := made_of_readVia hcs hread
    refine ⟨htail, hd.tokenType, hd.accessToken, ?_⟩
    rintro _ ⟨⟩
    exact hmade

theorem from_of_readJson {r : List Char} {t : Tokens} (h : readJson text = .ok (t, r)) :
    r <:+ text ∧ t.From text := by
  have hempty : Draft.From text .empty := ⟨by simp [Draft.empty], by simp [Draft.empty],
    by simp [Draft.empty]⟩
  obtain ⟨htail, d, hd, hfinish⟩ := readRecord_keeps keeps_jsonFields hempty h
  simp only [Draft.finish, Option.bind_eq_bind, Option.bind_eq_some_iff, Option.pure_def,
    Option.some.injEq] at hfinish
  obtain ⟨tokenType, htype, access, haccess, expires, -, refresh, hrefresh, rfl⟩ := hfinish
  exact ⟨htail, hd.tokenType _ htype, hd.accessToken _ haccess, hd.refreshToken _ hrefresh⟩

end Tokens

namespace Json

/-- A value that its constructor makes of a string in the text, and makes of its own text too. -/
def Accepted {α : Type} (construct : String → Except FieldError α) (own : α → String)
    (text : List Char) (a : α) : Prop :=
  (∃ s, Quotes text s ∧ construct s = .ok a) ∧ construct (own a) = .ok a

theorem accepted_of_made {α : Type} {construct : String → Except FieldError α} {own : α → String}
    {a : α} (h : Made (fun s => (construct s).toOption) text a) (hown : construct (own a) = .ok a) :
    Accepted construct own text a := by
  obtain ⟨s, hquotes, hmade⟩ := h
  refine ⟨⟨s, hquotes, ?_⟩, hown⟩
  cases hs : construct s with
  | error e => simp [hs, Except.toOption] at hmade
  | ok b => simpa [hs, Except.toOption] using hmade

theorem accepted_username {u : Username} (h : Made Identity.name? text u) :
    Accepted Username.ofText Username.text text u := accepted_of_made h u.ofText_text

theorem accepted_email {e : Email} (h : Made Identity.email? text e) :
    Accepted Email.ofText Email.text text e := accepted_of_made h e.ofText_text

theorem accepted_token {t : SignedToken} (h : t.From text) :
    Accepted SignedToken.ofText SignedToken.text text t := accepted_of_made h t.ofText_text

namespace Form

def username : Form Username := ⟨readVia Identity.name?, fun u => renderText u.text⟩

def email : Form Email := ⟨readVia Identity.email?, fun e => renderText e.text⟩

def signedToken : Form SignedToken := ⟨SignedToken.readJson, fun t => renderText t.text⟩

def tokenKind : Form TokenKind := ⟨readName TokenKind.ofTag?, fun k => renderText k.tag⟩

def identity : Form Identity := ⟨Identity.readJson, Identity.render⟩

def claimsBody : Form ClaimsBody := ⟨ClaimsBody.readJson, ClaimsBody.render⟩

def tokens : Form Tokens := ⟨Tokens.readJson, Tokens.render⟩

theorem username_lawful : username.Lawful :=
  lawful_of_exact fun u r => readVia_renderText Identity.name? (Identity.name?_text u) r

theorem email_lawful : email.Lawful :=
  lawful_of_exact fun e r => readVia_renderText Identity.email? (Identity.email?_text e) r

theorem signedToken_lawful : signedToken.Lawful :=
  lawful_of_exact SignedToken.readJson_renderText

theorem tokenKind_lawful : tokenKind.Lawful :=
  lawful_of_exact fun k r => readName_renderText k.ofTag?_tag r

theorem identity_lawful : identity.Lawful := lawful_of_exact Identity.readJson_render

theorem claimsBody_lawful : claimsBody.Lawful := lawful_of_exact ClaimsBody.readJson_render

theorem tokens_lawful : tokens.Lawful := lawful_of_exact Tokens.readJson_render

/-- Values of every type are read from the text that is written for them, and a text that is accepted has
one text for the same value, which is read as this value and written for it again. Names, addresses,
tokens, kinds and instants are read by their constructors, from strings that stand in the text, and what
is in the value would be accepted once more. -/
theorem forms_lawful :
    (username.Lawful ∧ email.Lawful ∧ signedToken.Lawful ∧ tokenKind.Lawful ∧ identity.Lawful ∧
      claimsBody.Lawful ∧ tokens.Lawful) ∧
    (∀ text u, readAll username.read text = .ok u →
      Accepted Username.ofText Username.text text u) ∧
    (∀ text e, readAll email.read text = .ok e → Accepted Email.ofText Email.text text e) ∧
    (∀ text t, readAll signedToken.read text = .ok t →
      Accepted SignedToken.ofText SignedToken.text text t) ∧
    (∀ text k, readAll tokenKind.read text = .ok k → Made TokenKind.ofTag? text k) ∧
    (∀ text i, readAll identity.read text = .ok i →
      Accepted Username.ofText Username.text text i.name ∧
      Accepted Email.ofText Email.text text i.email ∧
      Made (fun s => Rfc3339.read? s.toList) text i.created) ∧
    (∀ text b, readAll claimsBody.read text = .ok b →
      Accepted Username.ofText Username.text text b.user.name ∧
      Accepted Email.ofText Email.text text b.user.email ∧
      Made (fun s => Rfc3339.read? s.toList) text b.user.created ∧
      Quotes text b.subject ∧ ∀ h, b.idHash = some h → Quotes text h) ∧
    ∀ text t, readAll tokens.read text = .ok t →
      Quotes text t.tokenType ∧
      Accepted SignedToken.ofText SignedToken.text text t.accessToken ∧
      Accepted SignedToken.ofText SignedToken.text text t.refreshToken := by
  refine ⟨⟨username_lawful, email_lawful, signedToken_lawful, tokenKind_lawful, identity_lawful,
    claimsBody_lawful, tokens_lawful⟩, ?_, ?_, ?_, ?_, ?_, ?_, ?_⟩
  · intro text u h
    obtain ⟨r, hread⟩ := exists_read_of_readAll h
    exact accepted_username (made_of_readVia (List.suffix_refl _) hread).2
  · intro text e h
    obtain ⟨r, hread⟩ := exists_read_of_readAll h
    exact accepted_email (made_of_readVia (List.suffix_refl _) hread).2
  · intro text t h
    obtain ⟨r, hread⟩ := exists_read_of_readAll h
    exact accepted_token (made_of_readVia (List.suffix_refl _) hread).2
  · intro text k h
    obtain ⟨r, hread⟩ := exists_read_of_readAll h
    exact made_of_readName hread
  · intro text i h
    obtain ⟨r, hread⟩ := exists_read_of_readAll h
    obtain ⟨-, hfrom⟩ := Identity.from_of_readJson hread
    exact ⟨accepted_username hfrom.name, accepted_email hfrom.email, hfrom.created⟩
  · intro text b h
    obtain ⟨r, hread⟩ := exists_read_of_readAll h
    obtain ⟨-, hfrom⟩ := ClaimsBody.from_of_readJson hread
    exact ⟨accepted_username hfrom.user.name, accepted_email hfrom.user.email, hfrom.user.created,
      hfrom.subject, hfrom.idHash⟩
  · intro text t h
    obtain ⟨r, hread⟩ := exists_read_of_readAll h
    obtain ⟨-, hfrom⟩ := Tokens.from_of_readJson hread
    exact ⟨hfrom.tokenType, accepted_token hfrom.accessToken, accepted_token hfrom.refreshToken⟩

/-- A token with blanks around it. -/
def sampleText : List Char := ' ' :: renderText " a.b "

theorem read_sampleText : ∃ t, readAll signedToken.read sampleText = .ok t ∧ t.text = "a.b" := by
  have hmade : (SignedToken.ofText " a.b ").toOption = some ⟨"a.b", by decide, by decide⟩ := by decide
  have hspace : ∀ cs, SignedToken.readJson (' ' :: cs) = SignedToken.readJson cs := fun _ => rfl
  have hread := readVia_renderText (fun s => (SignedToken.ofText s).toOption) hmade []
  rw [List.append_nil, ← SignedToken.readJson, ← hspace] at hread
  refine ⟨⟨"a.b", by decide, by decide⟩, ?_, rfl⟩
  simp only [readAll, signedToken, sampleText, hread]
  rfl

/-- The blanks are gone from the normal text of the token, and claims are read from their own text. -/
theorem forms_lawful_sample :
    (∃ t, readAll signedToken.read sampleText = .ok t ∧
      Accepted SignedToken.ofText SignedToken.text sampleText t ∧
      signedToken.normal sampleText = .ok (renderText "a.b") ∧
      readAll signedToken.read (renderText "a.b") = .ok t) ∧
    ∃ b : ClaimsBody, readAll claimsBody.read b.render = .ok b ∧
      Accepted Username.ofText Username.text b.render b.user.name ∧
      Accepted Email.ofText Email.text b.render b.user.email ∧ Quotes b.render b.subject := by
  obtain ⟨⟨-, -, htoken, -, -, hbody, -⟩, -, -, haccepted, -, -, hclaims, -⟩ := forms_lawful
  constructor
  · obtain ⟨t, hread, htext⟩ := read_sampleText
    have hnormal : signedToken.normal sampleText = .ok (renderText "a.b") := by
      rw [← htext]
      exact map_eq_ok_iff.2 ⟨t, hread, rfl⟩
    obtain ⟨hsame, -⟩ := htoken.normal_normal _ _ hnormal
    exact ⟨t, hread, haccepted _ t hread, hnormal, hsame.trans hread⟩
  · let user : Identity :=
      ⟨-1, ⟨"user", by decide⟩, ⟨"user@host", by decide⟩, (Instant.ofSeconds? 0).get rfl⟩
    have hread := hbody.faithful ⟨user, "user_user_-1", none⟩
    obtain ⟨hname, hemail, -, hsubject, -⟩ := hclaims _ _ hread
    exact ⟨_, hread, hname, hemail, hsubject⟩

end Form

end Json

end TokenAuth
