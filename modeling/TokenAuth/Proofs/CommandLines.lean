import TokenAuth.CommandLine.Grammar

/-!
What is known of the values on a command line that is accepted. Each belongs to an option that there is,
and the option accepts it, unless the value is one of the environment; no option that is required is
without a value.
-/
namespace TokenAuth.CommandLine

variable {spec : Spec} {environment : List (String × String)} {values : Values} {o : OptionSpec}
  {args : List String} {long value : String}

namespace Progress

variable {p p' : Progress}

/-- The values taken in so far are accepted by options that there are, and such an option is pending, if
one is. -/
structure Fits (spec : Spec) (p : Progress) : Prop where
  accepted : ∀ long value, p.values.lookup long = some value →
    ∃ o ∈ spec, o.long = long ∧ o.accepts value = true
  pending : ∀ o seen, p.pending = some (o, seen) → o ∈ spec

namespace Fits

theorem start (spec : Spec) : Fits spec start where
  accepted := by simp [Progress.start]
  pending := by simp [Progress.start]

theorem store (hp : Fits spec p) (ho : o ∈ spec) (h : p.store o value = .ok p') : Fits spec p' := by
  unfold Progress.store at h
  split at h
  · simp at h
  · split at h
    · next haccepts =>
      rw [← Except.ok.inj h]
      refine ⟨?_, hp.pending⟩
      intro long' value' hlookup
      rw [List.lookup_cons] at hlookup
      split at hlookup
      · next hsame =>
        rw [← Option.some.inj hlookup]
        exact ⟨o, ho, (beq_iff_eq.1 hsame).symm, haccepts⟩
      · exact hp.accepted long' value' hlookup
    · simp at h

/-- Nothing is pending once that has been taken in. -/
theorem resolve (hp : Fits spec p) (h : p.resolve = .ok p') : Fits spec p' := by
  unfold Progress.resolve at h
  split at h
  · rw [← Except.ok.inj h]
    exact hp
  · simp at h
  · next o value hpending =>
    have hcleared : Fits spec { p with pending := none } := ⟨hp.accepted, by simp⟩
    exact hcleared.store (hp.pending o _ hpending) h

theorem takeOption (hp : Fits spec p) (ho : o ∈ spec) {attached : Option String}
    (h : p.takeOption o attached = .ok p') : Fits spec p' := by
  unfold Progress.takeOption at h
  split at h
  · simp at h
  · next p₁ hresolved =>
    have hp₁ := hp.resolve hresolved
    split at h
    · exact hp₁.store ho h
    · rw [← Except.ok.inj h]
      refine ⟨hp₁.accepted, ?_⟩
      rintro o' seen hpending
      simp only [Option.some.injEq, Prod.mk.injEq] at hpending
      rw [← hpending.1]
      exact ho

theorem takeLong (hp : Fits spec p) {cs : List Char} (h : takeLong spec p cs = .ok p') :
    Fits spec p' := by
  unfold Progress.takeLong at h
  split at h
  next name attached _ =>
    split at h
    · next o hfound => exact hp.takeOption (List.mem_of_find?_eq_some hfound) h
    · split at h <;> simp at h

theorem takeLetter (hp : Fits spec p) {c : Char} {rest : List Char}
    (h : takeLetter spec p c rest = .ok p') : Fits spec p' := by
  unfold Progress.takeLetter at h
  split at h
  · next o hfound => exact hp.takeOption (List.mem_of_find?_eq_some hfound) h
  · simp at h

theorem takeValue (hp : Fits spec p) (h : p.takeValue value = .ok p') : Fits spec p' := by
  unfold Progress.takeValue at h
  split at h
  · next o hpending =>
    rw [← Except.ok.inj h]
    refine ⟨hp.accepted, ?_⟩
    intro o' seen hpending'
    simp only [Option.some.injEq, Prod.mk.injEq] at hpending'
    rw [← hpending'.1]
    exact hp.pending o none hpending
  · simp at h

theorem takeArgument (hp : Fits spec p) {arg : String} (h : takeArgument spec p arg = .ok p') :
    Fits spec p' := by
  unfold Progress.takeArgument at h
  split at h
  · exact hp.takeLong h
  · exact hp.takeLetter h
  · exact hp.takeValue h

theorem takeAll (hp : Fits spec p) {args : List String} (h : takeAll spec p args = .ok p') :
    Fits spec p' := by
  induction args generalizing p with
  | nil =>
    rw [← Except.ok.inj h]
    exact hp
  | cons arg args ih =>
    unfold Progress.takeAll at h
    split at h
    · split at h
      · rw [← Except.ok.inj h]
        exact hp
      · simp at h
    · split at h
      · simp at h
      · next p₁ hfirst => exact ih (hp.takeArgument hfirst) h

end Fits

end Progress

/-- Where the value of an option may come from. -/
def OptionSpec.Given (o : OptionSpec) (environment : List (String × String)) (value : String) : Prop :=
  o.accepts value = true ∨
    ∃ name, o.fromEnvironment = some name ∧ List.lookup name environment = some value

theorem given_addVariables {os : Spec} (hos : ∀ o ∈ os, o ∈ spec)
    (hvalues : ∀ long value, values.lookup long = some value →
      ∃ o ∈ spec, o.long = long ∧ o.Given environment value)
    (h : (addVariables os environment values).lookup long = some value) :
    ∃ o ∈ spec, o.long = long ∧ o.Given environment value := by
  induction os generalizing values with
  | nil => exact hvalues long value h
  | cons o os ih =>
    refine ih (fun o' ho' => hos o' (List.mem_cons_of_mem o ho')) ?_ h
    intro long' value' hlookup
    dsimp only at hlookup
    split at hlookup
    · exact hvalues long' value' hlookup
    · split at hlookup
      · next found hfound =>
        rw [List.lookup_cons] at hlookup
        split at hlookup
        · next hsame =>
          obtain ⟨name, hname, hvariable⟩ := Option.bind_eq_some_iff.1 hfound
          rw [← Option.some.inj hlookup]
          exact ⟨o, hos o (List.mem_cons_self), (beq_iff_eq.1 hsame).symm,
            Or.inr ⟨name, hname, hvariable⟩⟩
        · exact hvalues long' value' hlookup
      · exact hvalues long' value' hlookup

theorem parse_eq_ok_iff : parse spec environment args = .ok values ↔
    ∃ p p', Progress.start.takeAll spec args = .ok p ∧ p.resolve = .ok p' ∧
      addVariables spec environment p'.values = values ∧
      ∀ o ∈ spec, o.isRequired = true → (values.lookup o.long).isSome = true := by
  have hrequired_iff : ∀ values : Values,
      (spec.all fun o => !o.isRequired || (values.lookup o.long).isSome) = true ↔
        ∀ o ∈ spec, o.isRequired = true → (values.lookup o.long).isSome = true := by
    intro values
    rw [List.all_eq_true]
    refine forall₂_congr fun o _ => ?_
    cases o.isRequired <;> simp
  constructor
  · intro h
    unfold parse at h
    split at h
    · simp at h
    · next p htaken =>
      split at h
      · simp at h
      · next p' hresolved =>
        dsimp only at h
        split at h
        · next hrequired =>
          rw [← Except.ok.inj h]
          exact ⟨p, p', htaken, hresolved, rfl, (hrequired_iff _).1 hrequired⟩
        · simp at h
  · rintro ⟨p, p', htaken, hresolved, rfl, hrequired⟩
    unfold parse
    simp only [htaken, hresolved, if_pos ((hrequired_iff _).2 hrequired)]

theorem parse_eq_ok (h : parse spec environment args = .ok values) :
    (∃ p : Progress, p.Fits spec ∧ values = addVariables spec environment p.values) ∧
      ∀ o ∈ spec, o.isRequired = true → (values.lookup o.long).isSome = true := by
  obtain ⟨p, p', htaken, hresolved, hvalues, hrequired⟩ := parse_eq_ok_iff.1 h
  have hfits := ((Progress.Fits.start spec).takeAll htaken).resolve hresolved
  exact ⟨⟨p', hfits, hvalues.symm⟩, hrequired⟩

/-- No value is taken that its option does not accept, unless it comes from the environment. -/
theorem given_of_parse (h : parse spec environment args = .ok values)
    (hvalue : values.lookup long = some value) :
    ∃ o ∈ spec, o.long = long ∧ o.Given environment value := by
  obtain ⟨⟨p, hfits, rfl⟩, -⟩ := parse_eq_ok h
  refine given_addVariables (fun o ho => ho) ?_ hvalue
  intro long' value' hlookup
  obtain ⟨o, ho, hlong, haccepts⟩ := hfits.accepted long' value' hlookup
  exact ⟨o, ho, hlong, Or.inl haccepts⟩

theorem exists_of_required (h : parse spec environment args = .ok values) (ho : o ∈ spec)
    (hrequired : o.isRequired = true) : ∃ value, values.lookup o.long = some value :=
  Option.isSome_iff_exists.1 ((parse_eq_ok h).2 o ho hrequired)

end TokenAuth.CommandLine
