import TokenAuth.Proofs.ClaimsText
import TokenAuth.UserTable

/-!
Rows of the table of users. An insert that succeeds adds one row at the end, under an email address
that no row had before, and disturbs no other row. The row of a new user turns back into that user; of
the instant of creation the whole second is left.
-/
namespace TokenAuth

theorem StoredHash.ofText_text (h : StoredHash) : ofText h.text = .ok h := by
  simp [ofText, h.text_ne]

theorem Email.text_of_ofText {s : String} {e : Email} (h : ofText s = .ok e) : e.text = s := by
  unfold ofText at h
  split at h
  · rw [← Except.ok.inj h]
  · simp at h

theorem Username.text_of_ofText {s : String} {u : Username} (h : ofText s = .ok u) : u.text = s := by
  unfold ofText at h
  split at h
  · simp at h
  · rw [← Except.ok.inj h]

theorem StoredHash.text_of_ofText {s : String} {u : StoredHash} (h : ofText s = .ok u) :
    u.text = s := by
  unfold ofText at h
  split at h
  · simp at h
  · rw [← Except.ok.inj h]

theorem Instant.ofParts?_eq_some {seconds : Int} {nanos : Nat} {t : Instant}
    (h : ofParts? seconds nanos = some t) : t.seconds = seconds ∧ t.nanos = nanos := by
  unfold ofParts? at h
  split at h
  · rw [← Option.some.inj h]
    exact ⟨rfl, rfl⟩
  · simp at h

theorem Instant.wholeSecond_of_nanos {t : Instant} (h : t.nanos = 0) : t.wholeSecond = t := by
  obtain ⟨seconds, nanos, _, _, _, _⟩ := t
  dsimp only at h
  subst h
  rfl

theorem Instant.toInt_ofInt_seconds (t : Instant) : (Int64.ofInt t.seconds).toInt = t.seconds := by
  have hfirst := t.first_le
  have hlast := t.le_last
  apply Int64.toInt_ofInt_of_le
  · omega
  · omega

namespace UserTable

/-- All that an insert asks for and does. -/
theorem insert_eq_ok {t t' : UserTable} {id? : Option Int64} {name email hash : String}
    {created id : Int64} (h : t.insert id? name email hash created = .ok (id, t')) :
    (id? <|> t.nextId?) = some id ∧ (∀ r ∈ t.rows, r.id ≠ id) ∧ (∀ r ∈ t.rows, r.email ≠ email) ∧
      t' = ⟨t.rows ++ [⟨id, name, email, hash, created⟩], max t.lastId id⟩ := by
  unfold insert at h
  split at h
  · simp at h
  · next id' hid =>
    split at h
    · simp at h
    · next hfree =>
      split at h
      · simp at h
      · next hnew =>
        have hpair := Except.ok.inj h
        simp only [Prod.mk.injEq] at hpair
        obtain ⟨rfl, ht⟩ := hpair
        refine ⟨hid, ?_, ?_, ht.symm⟩
        · intro r hr heq
          exact hfree (List.any_eq_true.2 ⟨r, hr, decide_eq_true heq⟩)
        · intro r hr heq
          exact hnew (List.any_eq_true.2 ⟨r, hr, decide_eq_true heq⟩)

theorem add_eq_ok {t t' : UserTable} {u : NewUser} {i : Identity} (h : t.add u = .ok (i, t')) :
    i = ⟨i.id, u.name, u.email, u.created⟩ ∧
      t.insert none u.name.text u.email.text u.hash.text (Int64.ofInt u.created.seconds) =
        .ok (i.id, t') := by
  unfold add at h
  split at h
  · simp at h
  · next id t'' hinsert =>
    have hpair := Except.ok.inj h
    simp only [Prod.mk.injEq] at hpair
    obtain ⟨rfl, rfl⟩ := hpair
    exact ⟨rfl, hinsert⟩

theorem email_of_row? {t : UserTable} {email : String} {r : UserRow} (h : t.row? email = some r) :
    r.email = email := by
  have hfound := List.find?_some (p := fun q : UserRow => decide (q.email = email)) h
  exact of_decide_eq_true hfound

/-- A row stays what it is. -/
theorem row?_insert_of_some {t t' : UserTable} {id? : Option Int64} {name email hash : String}
    {created id : Int64} (h : t.insert id? name email hash created = .ok (id, t'))
    {e : String} {r : UserRow} (hr : t.row? e = some r) : t'.row? e = some r := by
  obtain ⟨-, -, -, rfl⟩ := insert_eq_ok h
  have hfound : t.rows.find? (·.email = e) = some r := hr
  simp only [row?, List.find?_append, hfound, Option.some_or]

/-- Nor does an insert make a row for anyone else. -/
theorem row?_insert_of_ne {t t' : UserTable} {id? : Option Int64} {name email hash : String}
    {created id : Int64} (h : t.insert id? name email hash created = .ok (id, t'))
    {e : String} (hne : email ≠ e) : t'.row? e = t.row? e := by
  obtain ⟨-, -, -, rfl⟩ := insert_eq_ok h
  have hother : [(⟨id, name, email, hash, created⟩ : UserRow)].find? (·.email = e) = none := by
    rw [List.find?_eq_none]
    intro r hr heq
    rw [List.mem_singleton.1 hr] at heq
    exact hne (of_decide_eq_true heq)
  simp only [row?, List.find?_append, hother, Option.or_none]

theorem row?_insert_self {t t' : UserTable} {id? : Option Int64} {name email hash : String}
    {created id : Int64} (h : t.insert id? name email hash created = .ok (id, t')) :
    t'.row? email = some ⟨id, name, email, hash, created⟩ := by
  obtain ⟨-, -, hnew, rfl⟩ := insert_eq_ok h
  have hnone : t.rows.find? (·.email = email) = none := by
    rw [List.find?_eq_none]
    intro r hr heq
    exact hnew r hr (of_decide_eq_true heq)
  simp only [row?, List.find?_append, hnone, Option.none_or, List.find?_cons, decide_true]

end UserTable

/-- The row of a new user under some number. -/
def NewUser.row (u : NewUser) (id : Int64) : UserRow :=
  ⟨id, u.name.text, u.email.text, u.hash.text, Int64.ofInt u.created.seconds⟩

namespace UserRow

/-- The user that a row stands for: with its number and its texts, and created at its second. -/
structure Keeps (r : UserRow) (u : StoredUser) : Prop where
  id : u.identity.id = r.id
  name : u.identity.name.text = r.name
  email : u.identity.email.text = r.email
  hash : u.hash.text = r.hash
  created : u.identity.created.seconds = r.created.toInt
  whole : u.identity.created.nanos = 0

theorem toUser_eq_ok_iff {r : UserRow} {u : StoredUser} : r.toUser = .ok u ↔ r.Keeps u := by
  constructor
  · intro h
    unfold toUser at h
    split at h
    · simp at h
    · next created hcreated =>
      obtain ⟨hseconds, hnanos⟩ := Instant.ofParts?_eq_some hcreated
      split at h
      · simp at h
      · next name hname =>
        split at h
        · simp at h
        · next email hemail =>
          split at h
          · simp at h
          · next hash hhash =>
            rw [← Except.ok.inj h]
            exact ⟨rfl, Username.text_of_ofText hname, Email.text_of_ofText hemail,
              StoredHash.text_of_ofText hhash, hseconds, hnanos⟩
  · rintro ⟨hid, hname, hemail, hhash, hcreated, hwhole⟩
    have hsecond : Instant.ofSeconds? r.created.toInt = some u.identity.created := by
      rw [← hcreated, Instant.ofSeconds?_seconds, Instant.wholeSecond_of_nanos hwhole]
    simp only [toUser, hsecond, ← hname, ← hemail, ← hhash, ← hid, Username.ofText_text,
      Email.ofText_text, StoredHash.ofText_text]

theorem toUser_ofNewUser (u : NewUser) (id : Int64) :
    (u.row id).toUser = .ok ⟨⟨id, u.name, u.email, u.created.wholeSecond⟩, u.hash⟩ :=
  toUser_eq_ok_iff.2 ⟨rfl, rfl, rfl, rfl, (Instant.toInt_ofInt_seconds _).symm, rfl⟩

end UserRow

namespace UserTable

/-- A login takes one row, and all of it. -/
theorem authenticate_eq_some_iff {t : UserTable} {username : String} {p : Password} {i : Identity} :
    t.authenticate username p = .ok (some i) ↔ ∃ r u, Email.accepts username.toList = true ∧
      t.row? username = some r ∧ r.toUser = .ok u ∧ p.verify u.hash = .ok true ∧ u.identity = i := by
  constructor
  · intro h
    unfold authenticate at h
    split at h
    · simp at h
    · next e he =>
      have hname : e.text = username := Email.text_of_ofText he
      split at h
      · simp at h
      · simp at h
      · next u hfind =>
        split at h
        · simp at h
        · next hverify =>
          unfold find at hfind
          rw [hname] at hfind
          split at hfind
          · simp at hfind
          · next r hrow =>
            split at hfind
            · simp at hfind
            · next v huser =>
              have hsame : v = u := by simpa using hfind
              rw [hsame] at huser
              exact ⟨r, u, by rw [← hname]; exact e.accepted, hrow, huser, hverify, by simpa using h⟩
        · simp at h
  · rintro ⟨r, u, haccepted, hrow, huser, hverify, rfl⟩
    simp only [authenticate, Email.ofText, dif_pos haccepted, find, hrow, huser, hverify]

/-- Nobody logs in under a name that is not their email address. -/
theorem email_of_authenticate {t : UserTable} {username : String} {p : Password} {i : Identity}
    (h : t.authenticate username p = .ok (some i)) : i.email.text = username := by
  obtain ⟨r, u, -, hrow, huser, -, rfl⟩ := authenticate_eq_some_iff.1 h
  rw [(UserRow.toUser_eq_ok_iff.1 huser).email, email_of_row? hrow]

/-- Rows under other names have no part in a login. -/
theorem authenticate_congr {t t' : UserTable} {username : String}
    (h : t.row? username = t'.row? username) (p : Password) :
    t.authenticate username p = t'.authenticate username p := by
  cases he : Email.ofText username with
  | error _ => simp only [authenticate, he]
  | ok e =>
    have hfind : t.find e = t'.find e := by
      rw [find, find, Email.text_of_ofText he, h]
    simp only [authenticate, he, hfind]

end UserTable

end TokenAuth
