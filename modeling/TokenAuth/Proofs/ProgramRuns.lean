import TokenAuth.CommandLine.Workspace
import TokenAuth.Proofs.CommandLines
import TokenAuth.Proofs.TableHistory

/-!
Users that are added by runs of the program, one run after another in one directory. A run can tell of a
directory only what the tables of its databases are, and a run without success leaves them as they were;
so for all other runs it might as well not have taken place. The table of users thus lists who has been
added with success, in this order, and it alone decides who can be added next.
-/
namespace TokenAuth

namespace UserTable

variable {t t' : UserTable} {emails : List String} {u : NewUser} {i : Identity}

/-- A table whose rows came in one by one, under the next number each, with these email addresses. -/
structure Lists (t : UserTable) (emails : List String) : Prop where
  wellFormed : t.WellFormed
  emails_eq : t.rows.map (·.email) = emails
  last_eq : t.lastId.toInt = emails.length

theorem empty_lists : empty.Lists [] := ⟨empty_wellFormed, rfl, rfl⟩

theorem Lists.add (ht : t.Lists emails) (h : t.add u = .ok (i, t')) :
    t'.Lists (emails ++ [u.email.text]) := by
  obtain ⟨-, hinsert⟩ := add_eq_ok h
  have hwell := ht.wellFormed.insert hinsert
  obtain ⟨hid, -, -, rfl⟩ := insert_eq_ok hinsert
  have hnext := toInt_nextId? hid
  refine ⟨hwell, ?_, ?_⟩
  · rw [List.map_append, ht.emails_eq, List.map_singleton]
  · dsimp only
    rw [toInt_max, hnext, ht.last_eq, List.length_append, List.length_singleton]
    omega

/-- An email address that is listed cannot be added again, and nothing can once the numbers are used up;
everything else can. -/
theorem Lists.exists_add_iff (ht : t.Lists emails) : (∃ i t', t.add u = .ok (i, t')) ↔
    u.email.text ∉ emails ∧ emails.length < 9223372036854775807 := by
  constructor
  · rintro ⟨i, t', h⟩
    obtain ⟨-, hinsert⟩ := add_eq_ok h
    obtain ⟨hid, -, hfree, -⟩ := insert_eq_ok hinsert
    refine ⟨?_, ?_⟩
    · rw [← ht.emails_eq]
      intro hmem
      obtain ⟨r, hr, hsame⟩ := List.mem_map.1 hmem
      exact hfree r hr hsame
    · have hnext := toInt_nextId? hid
      have hupper := i.id.toInt_lt
      rw [ht.last_eq] at hnext
      omega
  · rintro ⟨hfree, hleft⟩
    cases hinsert : t.insert none u.name.text u.email.text u.hash.text
        (Int64.ofInt u.created.seconds) with
    | ok added =>
      exact ⟨⟨added.1, u.name, u.email, u.created⟩, added.2, by simp only [UserTable.add, hinsert]⟩
    | error e =>
      cases ht.wellFormed.obstacle hinsert with
      | numbersUsedUp _ hr hlast =>
        have hle := ht.wellFormed.id_le _ hr
        have hlargest : largestId.toInt = 9223372036854775807 := rfl
        rw [hlast, ht.last_eq] at hle
        omega
      | idTaken _ hid => simp at hid
      | emailTaken hr hemail =>
        rw [← ht.emails_eq] at hfree
        exact absurd (List.mem_map.2 ⟨_, hr, hemail⟩) hfree

end UserTable

namespace CommandLine

namespace Directory

variable {d d' : Directory} {place other : DatabasePlace} {t : UserTable}

/-- Directories that no run can tell apart. A database that is not there is as good as an empty one. -/
def Same (d d' : Directory) : Prop := ∀ place, d.openTable place = d'.openTable place

theorem Same.refl (d : Directory) : Same d d := fun _ => rfl

theorem openTable_save_file (d : Directory) (name : String) (t : UserTable) :
    (d.save (.file name) t).openTable (.file name) = .ok t := by
  simp [save, openTable]

theorem lookup_filter_ne (d : Directory) {name name' : String} (hne : name' ≠ name) :
    (d.filter (·.1 ≠ name)).lookup name' = d.lookup name' := by
  induction d with
  | nil => rfl
  | cons entry d ih =>
    rw [List.filter_cons]
    split
    · rw [List.lookup_cons, List.lookup_cons, ih]
    · next hentry =>
      have hsame : entry.1 = name := by simpa using hentry
      rw [ih, List.lookup_cons, hsame, beq_eq_false_iff_ne.2 hne]

theorem openTable_save_of_ne (hother : other ≠ place) :
    (d.save place t).openTable other = d.openTable other := by
  cases place with
  | memory => rfl
  | unreachable => rfl
  | file name =>
    cases other with
    | memory => rfl
    | unreachable => rfl
    | file name' =>
      have hne : name' ≠ name := fun hsame => hother (congrArg DatabasePlace.file hsame)
      simp only [save, openTable, List.lookup_cons, beq_eq_false_iff_ne.2 hne, lookup_filter_ne d hne]

/-- Opening a database changes nothing, whether it was there or not. -/
theorem same_save (hopen : d.openTable place = .ok t) : Same (d.save place t) d := by
  intro other
  by_cases hother : other = place
  · subst hother
    cases other with
    | memory => rfl
    | file name => rw [openTable_save_file, hopen]
    | unreachable => rfl
  · exact openTable_save_of_ne hother

theorem Same.save (h : Same d d') (place : DatabasePlace) (t : UserTable) :
    Same (d.save place t) (d'.save place t) := by
  intro other
  by_cases hother : other = place
  · subst hother
    cases other with
    | memory => rfl
    | file name => rw [openTable_save_file, openTable_save_file]
    | unreachable => rfl
  · rw [openTable_save_of_ne hother, openTable_save_of_ne hother, h other]

end Directory

variable {o : Surroundings} {d d' : Directory} {args : List String} {v : Values}
  {outcome : RunOutcome}

/-- All that a run can do: end at once, add a user, or do without success what leaves the directory the
same. -/
inductive Effect (o : Surroundings) (d : Directory) (args : List String) : RunOutcome → Directory → Prop
  | usage {e : UsageError} (h : parseCommand o.environment args = .error e) :
      Effect o d args (.usage e) d
  | added {v : Values} {r : UserRequest} {t t' : UserTable} {i : Identity}
      (h : parseCommand o.environment args = .ok (.user v)) (hr : AddUser.request v = .ok r)
      (hopen : d.openTable (.ofText r.database) = .ok t)
      (hadd : t.add (AddUser.newUser r o.draw o.salt o.now) = .ok (i, t')) :
      Effect o d args .done (d.save (.ofText r.database) t')
  | idle {outcome : RunOutcome} {d' : Directory} (hcode : outcome.exitCode? ≠ some 0)
      (hsame : Directory.Same d' d) : Effect o d args outcome d'

theorem runProgram_effect (o : Surroundings) (d : Directory) (args : List String) :
    Effect o d args (runProgram o d args).1 (runProgram o d args).2 := by
  unfold runProgram
  split
  · next e h => exact .usage h
  · next v h =>
    unfold addUser
    split
    · exact .idle (by simp [RunOutcome.exitCode?]) (.refl d)
    · next r hr =>
      dsimp only
      split
      · exact .idle (by simp [RunOutcome.exitCode?]) (.refl d)
      · next t hopen =>
        split
        · exact .idle (by simp [RunOutcome.exitCode?]) (Directory.same_save hopen)
        · next hadd => exact .added h hr hopen hadd
  · next v h =>
    unfold startService
    split
    · exact .idle (by simp [RunOutcome.exitCode?]) (.refl d)
    · dsimp only
      split
      · exact .idle (by simp [RunOutcome.exitCode?]) (.refl d)
      · next t hopen =>
        split
        · exact .idle (by simp [RunOutcome.exitCode?]) (Directory.same_save hopen)
        · exact .idle (by simp [RunOutcome.exitCode?]) (Directory.same_save hopen)

/-- A run without success leaves the directory as it found it. -/
theorem same_of_exitCode?_ne (hcode : (runProgram o d args).1.exitCode? ≠ some 0) :
    Directory.Same (runProgram o d args).2 d := by
  have heffect := runProgram_effect o d args
  generalize (runProgram o d args).1 = outcome at hcode heffect
  generalize (runProgram o d args).2 = d' at heffect
  cases heffect with
  | usage => exact .refl d
  | added => exact absurd rfl hcode
  | idle _ hsame => exact hsame

/-- What a run shows and leaves behind depends on the tables alone. -/
theorem runProgram_congr (h : Directory.Same d d') (o : Surroundings) (args : List String) :
    (runProgram o d args).1 = (runProgram o d' args).1 ∧
      Directory.Same (runProgram o d args).2 (runProgram o d' args).2 := by
  unfold runProgram
  split
  · exact ⟨rfl, h⟩
  · next v _ =>
    unfold addUser
    split
    · exact ⟨rfl, h⟩
    · next r _ =>
      dsimp only
      rw [h]
      split
      · exact ⟨rfl, h⟩
      · split
        · exact ⟨rfl, h.save _ _⟩
        · exact ⟨rfl, h.save _ _⟩
  · next v _ =>
    unfold startService
    split
    · exact ⟨rfl, h⟩
    · dsimp only
      rw [h]
      split
      · exact ⟨rfl, h⟩
      · split
        · exact ⟨rfl, h.save _ _⟩
        · exact ⟨rfl, h.save _ _⟩

variable {xs before after : List (Surroundings × List String)} {x : Surroundings × List String}

theorem runAll_congr (h : Directory.Same d d') (xs : List (Surroundings × List String)) :
    runAll d xs = runAll d' xs := by
  induction xs generalizing d d' with
  | nil => rfl
  | cons x xs ih =>
    obtain ⟨houtcome, hsame⟩ := runProgram_congr h x.1 x.2
    exact congrArg₂ List.cons houtcome (ih hsame)

/-- The directory after some runs. -/
def directoryAfter (d : Directory) (xs : List (Surroundings × List String)) : Directory :=
  xs.foldl (fun d x => (runProgram x.1 d x.2).2) d

theorem length_runAll (d : Directory) (xs : List (Surroundings × List String)) :
    (runAll d xs).length = xs.length := by
  induction xs generalizing d with
  | nil => rfl
  | cons x xs ih => exact congrArg Nat.succ (ih _)

theorem runAll_append (d : Directory) (xs ys : List (Surroundings × List String)) :
    runAll d (xs ++ ys) = runAll d xs ++ runAll (directoryAfter d xs) ys := by
  induction xs generalizing d with
  | nil => rfl
  | cons x xs ih => exact congrArg (List.cons _) (ih _)

theorem runAll_split (d : Directory) (before after : List (Surroundings × List String))
    (x : Surroundings × List String) : runAll d (before ++ x :: after) =
      runAll d before ++ (runProgram x.1 (directoryAfter d before) x.2).1 ::
        runAll (runProgram x.1 (directoryAfter d before) x.2).2 after :=
  runAll_append d before (x :: after)

theorem runAll_getElem?_length (d : Directory) (before after : List (Surroundings × List String))
    (x : Surroundings × List String) : (runAll d (before ++ x :: after))[before.length]? =
      some (runProgram x.1 (directoryAfter d before) x.2).1 := by
  rw [runAll_split, ← length_runAll d before, List.getElem?_append_right (Nat.le_refl _),
    Nat.sub_self, List.getElem?_cons_zero]

/-- Without a run that had no success, all others show what they showed with it. -/
theorem runAll_remove (hx : (runAll d (before ++ x :: after))[before.length]? = some outcome)
    (hcode : outcome.exitCode? ≠ some 0) :
    runAll d (before ++ after) = (runAll d (before ++ x :: after)).eraseIdx before.length := by
  rw [runAll_getElem?_length, Option.some.injEq] at hx
  rw [← hx] at hcode
  have hrest := runAll_congr (same_of_exitCode?_ne hcode) after
  rw [runAll_split, runAll_append, ← length_runAll d before,
    List.eraseIdx_append_of_length_le (Nat.le_refl _), Nat.sub_self, List.eraseIdx_cons_zero, hrest]

namespace AddUser

variable {r : UserRequest} {name email : String}

theorem password?_eq_ok_iff :
    (∃ password, password? v = .ok password) ↔ v.lookup "password" ≠ some "" := by
  cases hgiven : v.lookup "password" with
  | none => simp [password?, hgiven]
  | some p =>
    by_cases hp : p = ""
    · simp [password?, hgiven, Password.ofText, hp, Except.map]
    · simp [password?, hgiven, Password.ofText, hp, Except.map]

/-- What a request for a new user is made from. -/
theorem request_eq_ok (h : request v = .ok r) (hname : v.lookup "name" = some name)
    (hemail : v.lookup "email" = some email) :
    r.name.text = name ∧ r.email.text = email ∧ password? v = .ok r.password ∧
      r.database = databaseOf v := by
  unfold request at h
  rw [hname, hemail, Option.getD_some, Option.getD_some] at h
  split at h
  · simp at h
  · next n hn =>
    split at h
    · simp at h
    · next e he =>
      split at h
      · simp at h
      · next password hp =>
        rw [← Except.ok.inj h]
        exact ⟨Username.text_of_ofText hn, Email.text_of_ofText he, hp, rfl⟩

/-- Fields on a line that make up a user, who can be added next to users with these email addresses. -/
structure Addable (name email : String) (password : Option String) (emails : List String) : Prop where
  name_ne : name ≠ ""
  email_accepted : Email.accepts email.toList = true
  password_ne : password ≠ some ""
  email_new : email ∉ emails
  /-- Each user gets a number, and there are no more numbers than this. -/
  numbers_left : emails.length < 9223372036854775807

theorem exists_request {emails : List String} (hname : v.lookup "name" = some name)
    (hemail : v.lookup "email" = some email)
    (h : Addable name email (v.lookup "password") emails) : ∃ r, request v = .ok r := by
  obtain ⟨password, hp⟩ := password?_eq_ok_iff.2 h.password_ne
  refine ⟨⟨⟨name, h.name_ne⟩, ⟨email, h.email_accepted⟩, password, databaseOf v⟩, ?_⟩
  simp only [request, hname, hemail, Option.getD_some, Username.ofText, dif_neg h.name_ne,
    Email.ofText, dif_pos h.email_accepted, hp]

end AddUser

/-- The email address that a run has added a user with. -/
def registration? (x : Surroundings × List String) (outcome : RunOutcome) : Option String :=
  if outcome.exitCode? = some 0 then
    match parseCommand x.1.environment x.2 with
    | .ok (.user v) => v.lookup "email"
    | _ => none
  else none

/-- The email addresses that runs have added users with, in their order. -/
def registered (d : Directory) (xs : List (Surroundings × List String)) : List String :=
  (xs.zip (runAll d xs)).filterMap fun p => registration? p.1 p.2

/-- No user is added to another database than the one that is taken if none is named. -/
def NamesNoDatabase (x : Surroundings × List String) : Prop :=
  ∀ v, parseCommand x.1.environment x.2 = .ok (.user v) → v.lookup "db-file-path" = none

/-- These users and no others have been added to the database that is taken if none is named. -/
def Keeps (d : Directory) (emails : List String) : Prop :=
  ∃ t, d.openTable (.ofText defaultDatabase) = .ok t ∧ t.Lists emails

theorem ofText_defaultDatabase : DatabasePlace.ofText defaultDatabase = .file "users.db" := rfl

theorem keeps_of_absent (habsent : d.lookup "users.db" = none) : Keeps d [] := by
  refine ⟨.empty, ?_, UserTable.empty_lists⟩
  rw [ofText_defaultDatabase, Directory.openTable, habsent, Option.getD_none]

theorem databaseOf_of_none (hv : v.lookup "db-file-path" = none) :
    databaseOf v = defaultDatabase := by
  rw [databaseOf, hv, Option.getD_none]

theorem parse_of_user {environment : List (String × String)}
    (h : parseCommand environment args = .ok (.user v)) :
    ∃ rest, parse AddUser.spec environment rest = .ok v := by
  unfold parseCommand at h
  split at h
  · simp at h
  · next arg args =>
    split at h
    · cases hparse : parse Run.spec environment args <;> simp [hparse, Except.map] at h
    · split at h
      · cases hparse : parse AddUser.spec environment args with
        | error e => simp [hparse, Except.map] at h
        | ok v' =>
          simp only [hparse, Except.map, Except.ok.injEq, Command.user.injEq] at h
          exact ⟨args, by rw [hparse, h]⟩
      · split at h
        · simp at h
        · split at h
          · split at h
            · simp at h
            · split at h
              · simp at h
              · split at h <;> simp at h
          · simp at h
          · simp at h

/-- A user is never added without a name and an email address on the line. -/
theorem lookup_of_user {environment : List (String × String)}
    (h : parseCommand environment args = .ok (.user v)) :
    ∃ name email, v.lookup "name" = some name ∧ v.lookup "email" = some email := by
  obtain ⟨rest, hparse⟩ := parse_of_user h
  obtain ⟨name, hname⟩ := exists_of_required hparse
    (o := ⟨"name", some 'n', none, true, fun _ => true⟩) (by simp [AddUser.spec]) rfl
  obtain ⟨email, hemail⟩ := exists_of_required hparse
    (o := ⟨"email", some 'e', none, true, fun _ => true⟩) (by simp [AddUser.spec]) rfl
  exact ⟨name, email, hname, hemail⟩

theorem Keeps.of_same {emails : List String} (h : Keeps d emails) (hsame : Directory.Same d' d) :
    Keeps d' emails := by
  obtain ⟨t, hopen, ht⟩ := h
  exact ⟨t, (hsame _).trans hopen, ht⟩

theorem Keeps.runProgram {emails : List String} (h : Keeps d emails) (hx : NamesNoDatabase x) :
    Keeps (runProgram x.1 d x.2).2
      (emails ++ (registration? x (runProgram x.1 d x.2).1).toList) := by
  have heffect := runProgram_effect x.1 d x.2
  generalize (CommandLine.runProgram x.1 d x.2).1 = outcome at heffect
  generalize (CommandLine.runProgram x.1 d x.2).2 = d' at heffect
  cases heffect with
  | usage hparse =>
    have hnone : ∀ outcome, registration? x outcome = none := by
      intro outcome
      simp only [registration?, hparse]
      split <;> rfl
    rw [hnone, Option.toList_none, List.append_nil]
    exact h
  | @added v r t t' i hparse hr hopen hadd =>
    obtain ⟨name, email, hname, hemail⟩ := lookup_of_user hparse
    obtain ⟨-, haddress, -, hdatabase⟩ := AddUser.request_eq_ok hr hname hemail
    have hsome : registration? x .done = some email := by
      simp only [registration?, hparse, hemail]
      rfl
    obtain ⟨t₀, hopen₀, ht₀⟩ := h
    rw [hdatabase, databaseOf_of_none (hx v hparse)] at hopen
    rw [hopen, Except.ok.injEq] at hopen₀
    have hlists := ht₀.add (hopen₀ ▸ hadd)
    have haddress' : (AddUser.newUser r x.1.draw x.1.salt x.1.now).email.text = email := haddress
    rw [hsome, Option.toList_some, hdatabase, databaseOf_of_none (hx v hparse), ← haddress']
    refine ⟨t', ?_, hlists⟩
    rw [ofText_defaultDatabase]
    exact Directory.openTable_save_file d _ t'
  | idle hcode hsame =>
    rw [registration?, if_neg hcode, Option.toList_none, List.append_nil]
    exact h.of_same hsame

theorem registered_cons (d : Directory) (x : Surroundings × List String)
    (xs : List (Surroundings × List String)) : registered d (x :: xs) =
      (registration? x (runProgram x.1 d x.2).1).toList ++
        registered (runProgram x.1 d x.2).2 xs := by
  have hrun : runAll d (x :: xs) =
      (runProgram x.1 d x.2).1 :: runAll (runProgram x.1 d x.2).2 xs := rfl
  rw [registered, hrun, List.zip_cons_cons, List.filterMap_cons]
  cases registration? x (runProgram x.1 d x.2).1 <;> rfl

theorem Keeps.runAll {emails : List String} (h : Keeps d emails) (hxs : ∀ x ∈ xs, NamesNoDatabase x) :
    Keeps (directoryAfter d xs) (emails ++ registered d xs) := by
  -- The first run may have added an email address, which the rest of the runs start with.
  induction xs generalizing d emails with
  | nil =>
    rw [registered, List.zip_nil_left, List.filterMap_nil, List.append_nil]
    exact h
  | cons x xs ih =>
    have hfirst := h.runProgram (hxs x List.mem_cons_self)
    have hrest := ih hfirst fun y hy => hxs y (List.mem_cons_of_mem x hy)
    rw [registered_cons, ← List.append_assoc]
    exact hrest

/-- A user is added if possible, and otherwise the run fails. -/
theorem Keeps.addUser {emails : List String} {name email : String} (h : Keeps d emails)
    (hv : v.lookup "db-file-path" = none) (hname : v.lookup "name" = some name)
    (hemail : v.lookup "email" = some email) :
    (addUser o d v).1 = .done ∧ AddUser.Addable name email (v.lookup "password") emails ∨
      (∃ f, (addUser o d v).1 = .failed f) ∧
        ¬ AddUser.Addable name email (v.lookup "password") emails := by
  obtain ⟨t, hopen, ht⟩ := h
  cases hr : AddUser.request v with
  | error f =>
    refine Or.inr ⟨⟨f, by simp only [CommandLine.addUser, hr]⟩, fun haddable => ?_⟩
    obtain ⟨r, hr'⟩ := AddUser.exists_request hname hemail haddable
    rw [hr] at hr'
    simp at hr'
  | ok r =>
    obtain ⟨hnamed, haddress, hpassword, hdatabase⟩ := AddUser.request_eq_ok hr hname hemail
    rw [← databaseOf_of_none hv, ← hdatabase] at hopen
    have hnew : (∃ i t', t.add (AddUser.newUser r o.draw o.salt o.now) = .ok (i, t')) ↔
        email ∉ emails ∧ emails.length < 9223372036854775807 := by
      rw [← haddress]
      exact ht.exists_add_iff
    cases hadd : t.add (AddUser.newUser r o.draw o.salt o.now) with
    | error e =>
      refine Or.inr ⟨⟨.store e, by simp only [CommandLine.addUser, hr, hopen, hadd]⟩, ?_⟩
      intro haddable
      obtain ⟨i, t', hok⟩ := hnew.2 ⟨haddable.email_new, haddable.numbers_left⟩
      rw [hadd] at hok
      simp at hok
    | ok added =>
      refine Or.inl ⟨by simp only [CommandLine.addUser, hr, hopen, hadd], ?_⟩
      obtain ⟨hfree, hleft⟩ := hnew.1 ⟨added.1, added.2, hadd⟩
      refine ⟨?_, ?_, AddUser.password?_eq_ok_iff.1 ⟨_, hpassword⟩, hfree, hleft⟩
      · rw [← hnamed]
        exact r.name.text_ne
      · rw [← haddress]
        exact r.email.accepted

/-- The database that is taken if none is named is not there at first. Then a run that is to add a user
does so if and only if the fields on the line make up a user and no earlier run has added one with this
email address, and otherwise it fails. And if any run without success is left out, all others show what
they have shown with it. -/
theorem added_iff_addable {runs : List (Surroundings × List String)}
    (habsent : d.lookup "users.db" = none) (hruns : ∀ x ∈ runs, NamesNoDatabase x) :
    (∀ before x after v, runs = before ++ x :: after →
      parseCommand x.1.environment x.2 = .ok (.user v) →
      ∃ name email outcome, v.lookup "name" = some name ∧ v.lookup "email" = some email ∧
        (runAll d runs)[before.length]? = some outcome ∧
        (outcome.exitCode? = some 0 ↔
          AddUser.Addable name email (v.lookup "password") (registered d before)) ∧
        (outcome.exitCode? = some 1 ↔
          ¬ AddUser.Addable name email (v.lookup "password") (registered d before))) ∧
    ∀ before x after outcome, runs = before ++ x :: after →
      (runAll d runs)[before.length]? = some outcome → outcome.exitCode? ≠ some 0 →
      runAll d (before ++ after) = (runAll d runs).eraseIdx before.length := by
  refine ⟨?_, ?_⟩
  · rintro before x after v rfl hparse
    obtain ⟨name, email, hname, hemail⟩ := lookup_of_user hparse
    have hkeeps : Keeps (directoryAfter d before) (registered d before) := by
      have hbefore := (keeps_of_absent habsent).runAll fun y hy =>
        hruns y (List.mem_append_left _ hy)
      simpa using hbefore
    have hx := hruns x (List.mem_append_right _ List.mem_cons_self) v hparse
    have hprogram : runProgram x.1 (directoryAfter d before) x.2 =
        addUser x.1 (directoryAfter d before) v := by
      simp only [runProgram, hparse]
    refine ⟨name, email, _, hname, hemail, runAll_getElem?_length d before after x, ?_⟩
    rw [hprogram]
    rcases hkeeps.addUser (o := x.1) hx hname hemail with ⟨hdone, haddable⟩ | ⟨⟨f, hfailed⟩, hnot⟩
    · rw [hdone]
      simp [RunOutcome.exitCode?, haddable]
    · rw [hfailed]
      simp [RunOutcome.exitCode?, hnot]
  · rintro before x after outcome rfl hx hcode
    exact runAll_remove hx hcode

/-- Surroundings in which nothing is drawn and no port is taken. -/
def sampleSurroundings : Surroundings :=
  ⟨[], fun _ => 0, List.replicate 32 0, Service.Server.sample.now, []⟩

/-- A run that is to add a user by this name, always with the same email address. -/
def adding (name : String) : Surroundings × List String :=
  (sampleSurroundings, ["user", "--name", name, "-e", "user@host"])

def sampleRuns : List (Surroundings × List String) := [adding "first", adding "second"]

theorem parseCommand_adding {name : String} (hname : name ∈ ["first", "second"]) :
    parseCommand (adding name).1.environment (adding name).2 =
      .ok (.user [("email", "user@host"), ("name", name)]) := by
  rcases List.mem_pair.1 hname with rfl | rfl <;> rfl

theorem namesNoDatabase_sampleRuns : ∀ x ∈ sampleRuns, NamesNoDatabase x := by
  have hadding : ∀ name ∈ ["first", "second"], NamesNoDatabase (adding name) := by
    intro name hname v hv
    rw [parseCommand_adding hname, Except.ok.injEq, Command.user.injEq] at hv
    rw [← hv]
    rfl
  intro x hx
  rcases List.mem_pair.1 hx with rfl | rfl
  · exact hadding "first" (by simp)
  · exact hadding "second" (by simp)

/-- The second user asks for an email address that the first one has got, and the first one is not
concerned. -/
theorem added_iff_addable_sample :
    List.lookup "users.db" ([] : Directory) = none ∧ (∀ x ∈ sampleRuns, NamesNoDatabase x) ∧
    (∃ outcome, (runAll [] sampleRuns)[0]? = some outcome ∧ outcome.exitCode? = some 0) ∧
    (∃ outcome, (runAll [] sampleRuns)[1]? = some outcome ∧ outcome.exitCode? = some 1) ∧
    runAll [] [adding "first"] = (runAll [] sampleRuns).eraseIdx 1 := by
  have habsent : List.lookup "users.db" ([] : Directory) = none := rfl
  obtain ⟨hadds, hremove⟩ := added_iff_addable habsent namesNoDatabase_sampleRuns
  obtain ⟨_, _, first, hname, hemail, hfirst, hdone, -⟩ := hadds [] (adding "first")
    [adding "second"] _ rfl (parseCommand_adding (by simp))
  obtain ⟨_, _, second, hname', hemail', hsecond, -, hfailed⟩ := hadds [adding "first"]
    (adding "second") [] _ rfl (parseCommand_adding (by simp))
  have hcode : second.exitCode? = some 1 := by
    refine hfailed.2 fun haddable => haddable.email_new ?_
    rw [← Option.some.inj hemail']
    exact List.mem_singleton_self _
  refine ⟨habsent, namesNoDatabase_sampleRuns, ⟨first, hfirst, hdone.2 ?_⟩,
    ⟨second, hsecond, hcode⟩, ?_⟩
  · rw [← Option.some.inj hname, ← Option.some.inj hemail]
    exact ⟨by decide, by decide, by decide, List.not_mem_nil, by decide⟩
  · refine hremove [adding "first"] (adding "second") [] second rfl hsecond ?_
    rw [hcode]
    decide

end CommandLine

end TokenAuth
