import ActionDispatch.Run

/-!
# Congruences of runs

What holds of the parts of a run often holds of the whole. A run is within bounds if all that it
reports, and the failure that it may end with, are of a given kind. A relation of runs is kept where
runs follow each other; a congruence relates every run within bounds to itself as well.
-/

set_option autoImplicit false

namespace ActionDispatch.Run

variable {Event ε ε₂ α β γ : Type}

theorem bind_of_done {r : Run Event ε α} {a : α} (h : r.outcome = .done a)
    (f : α → Run Event ε β) : r >>= f = ⟨r.events ++ (f a).events, (f a).outcome⟩ := by
  change andThen r f = _
  simp only [andThen, h]

theorem bind_of_failed {r : Run Event ε α} {e : ε} (h : r.outcome = .failed e)
    (f : α → Run Event ε β) : r >>= f = ⟨r.events, .failed e⟩ := by
  change andThen r f = _
  simp only [andThen, h]

theorem bind_of_unfinished {r : Run Event ε α} (h : r.outcome = .unfinished)
    (f : α → Run Event ε β) : r >>= f = ⟨r.events, .unfinished⟩ := by
  change andThen r f = _
  simp only [andThen, h]

theorem bind_bind (r : Run Event ε α) (f : α → Run Event ε β) (g : β → Run Event ε γ) :
    r >>= f >>= g = r >>= fun a => f a >>= g := by
  cases h : r.outcome with
  | done a =>
    rw [bind_of_done h, bind_of_done h]
    cases hf : (f a).outcome with
    | done b =>
      rw [bind_of_done rfl, bind_of_done hf, List.append_assoc]
    | failed e => rw [bind_of_failed rfl, bind_of_failed hf]
    | unfinished => rw [bind_of_unfinished rfl, bind_of_unfinished hf]
  | failed e =>
    rw [bind_of_failed h, bind_of_failed h]
    exact bind_of_failed rfl g
  | unfinished =>
    rw [bind_of_unfinished h, bind_of_unfinished h]
    exact bind_of_unfinished rfl g

theorem pure_bind (a : α) (f : α → Run Event ε β) : pure a >>= f = f a := rfl

theorem report_bind (e : Event) (f : Unit → Run Event ε β) :
    report e >>= f = ⟨e :: (f ()).events, (f ()).outcome⟩ := rfl

theorem bind_pure (r : Run Event ε α) : r >>= pure = r := by
  obtain ⟨events, outcome⟩ := r
  cases outcome with
  | done a =>
    show (⟨events ++ [], .done a⟩ : Run Event ε α) = ⟨events, .done a⟩
    rw [List.append_nil]
  | failed e => rfl
  | unfinished => rfl

instance : LawfulMonad (Run Event ε) :=
  LawfulMonad.mk' (Run Event ε) bind_pure pure_bind bind_bind

theorem forEach_map (f : β → Run Event ε γ) (g : α → β) (as : List α) :
    forEach f (as.map g) = forEach (fun a => f (g a)) as := by
  induction as with
  | nil => rfl
  | cons a as ih => simp only [List.map_cons, forEach, ih]

theorem forEach_done {f : α → Run Event ε β} {as : List α} {bs : List β}
    (h : as.map (fun a => (f a).outcome) = bs.map .done) :
    forEach f as = ⟨as.flatMap fun a => (f a).events, .done bs⟩ := by
  induction as generalizing bs with
  | nil =>
    obtain rfl : bs = [] := by simpa using h.symm
    rfl
  | cons a as ih =>
    cases bs with
    | nil => cases h
    | cons b bs =>
      obtain ⟨hb, hbs⟩ := List.cons.inj h
      rw [forEach, bind_of_done hb, ih hbs]
      simp [bind_of_done, pure, done]

/-- The first run of a list that fails ends it. -/
theorem forEach_failed {f : α → Run Event ε β} {before : List α} {a : α} {e : ε}
    (hb : ∀ earlier ∈ before, ∃ b, (f earlier).outcome = .done b)
    (ha : (f a).outcome = .failed e) (after : List α) :
    forEach f (before ++ a :: after) =
      ⟨before.flatMap (fun earlier => (f earlier).events) ++ (f a).events, .failed e⟩ := by
  induction before with
  | nil =>
    rw [List.nil_append, forEach, bind_of_failed ha]
    rfl
  | cons first before ih =>
    obtain ⟨⟨b, hfirst⟩, hrest⟩ := List.forall_mem_cons.mp hb
    rw [List.cons_append, forEach, bind_of_done hfirst, ih hrest, bind_of_failed rfl]
    simp

def Ends (r : Run Event ε α) : Prop := r.outcome ≠ .unfinished

theorem ends_pure (a : α) : (pure a : Run Event ε α).Ends := by intro h; cases h

theorem ends_fail (e : ε) : (fail e : Run Event ε α).Ends := by intro h; cases h

theorem ends_report (e : Event) : (report e : Run Event ε Unit).Ends := by intro h; cases h

theorem ends_ofExcept (x : Except ε α) : (ofExcept x : Run Event ε α).Ends := by
  cases x with
  | ok a => exact ends_pure a
  | error e => exact ends_fail e

theorem Ends.bind {r : Run Event ε α} {f : α → Run Event ε β} (hr : r.Ends) (hf : ∀ a, (f a).Ends) :
    (r >>= f).Ends := by
  cases h : r.outcome with
  | done a =>
    rw [bind_of_done h]
    exact hf a
  | failed e =>
    rw [bind_of_failed h]
    intro hu
    cases hu
  | unfinished => exact absurd h hr

theorem Ends.mapError {r : Run Event ε α} (hr : r.Ends) (f : ε → ε₂) : (r.mapError f).Ends := by
  cases h : r.outcome with
  | done a => simp [Ends, Run.mapError, h]
  | failed e => simp [Ends, Run.mapError, h]
  | unfinished => exact absurd h hr

/-- A run that ends is settled with a value. -/
theorem Ends.settle {r : Run Event ε α} (hr : r.Ends) (f : Except ε α → β) :
    ∃ b, (r.settle f : Run Event ε₂ β).outcome = .done b := by
  cases h : r.outcome with
  | done a => exact ⟨f (.ok a), by simp [Run.settle, h]⟩
  | failed e => exact ⟨f (.error e), by simp [Run.settle, h]⟩
  | unfinished => exact absurd h hr

theorem settle_not_failed (f : Except ε α → β) (r : Run Event ε α) (error : ε₂) :
    (r.settle f).outcome ≠ .failed error := by
  cases h : r.outcome <;> simp [Run.settle, h]

section

variable {P : Event → Prop} {Q : ε → Prop}

structure Within (P : Event → Prop) (Q : ε → Prop) (r : Run Event ε α) : Prop where
  event : ∀ e ∈ r.events, P e
  failure : ∀ e, r.outcome = .failed e → Q e

theorem within_pure (a : α) : Within P Q (pure a : Run Event ε α) where
  event := by intro e he; cases he
  failure := by intro e he; cases he

theorem within_unfinished : Within P Q (unfinished : Run Event ε α) where
  event := by intro e he; cases he
  failure := by intro e he; cases he

theorem within_fail {e : ε} (h : Q e) : Within P Q (fail e : Run Event ε α) where
  event := by intro e he; cases he
  failure := by intro e' he; cases he; exact h

theorem within_report {e : Event} (h : P e) : Within P Q (report e : Run Event ε Unit) where
  event := by intro e' he; rw [List.mem_singleton.mp he]; exact h
  failure := by intro e he; cases he

theorem within_ofExcept {x : Except ε α} (h : ∀ e, x = .error e → Q e) :
    Within P Q (ofExcept x : Run Event ε α) := by
  cases x with
  | ok a => exact within_pure a
  | error e => exact within_fail (h e rfl)

theorem within_ofExcept_mapError {x : Except ε₂ α} {f : ε₂ → ε} (h : ∀ e, Q (f e)) :
    Within P Q (ofExcept (x.mapError f) : Run Event ε α) := by
  cases x with
  | ok a => exact within_pure a
  | error e => exact within_fail (h e)

theorem Within.mono {P₂ : Event → Prop} {Q₂ : ε → Prop} {r : Run Event ε α} (h : Within P Q r)
    (hP : ∀ e, P e → P₂ e) (hQ : ∀ e, Q e → Q₂ e) : Within P₂ Q₂ r where
  event e he := hP e (h.event e he)
  failure e he := hQ e (h.failure e he)

/-- Only what a run goes on with needs to be within bounds. -/
theorem Within.bind_done {r : Run Event ε α} {f : α → Run Event ε β} (hr : Within P Q r)
    (hf : ∀ a, r.outcome = .done a → Within P Q (f a)) : Within P Q (r >>= f) := by
  cases h : r.outcome with
  | done a =>
    rw [bind_of_done h]
    refine ⟨fun e he => ?_, (hf a h).failure⟩
    rcases List.mem_append.mp he with he | he
    · exact hr.event e he
    · exact (hf a h).event e he
  | failed e =>
    rw [bind_of_failed h]
    refine ⟨hr.event, fun e' he => ?_⟩
    cases he
    exact hr.failure e h
  | unfinished =>
    rw [bind_of_unfinished h]
    exact ⟨hr.event, fun e he => by cases he⟩

theorem Within.bind {r : Run Event ε α} {f : α → Run Event ε β} (hr : Within P Q r)
    (hf : ∀ a, Within P Q (f a)) : Within P Q (r >>= f) :=
  hr.bind_done fun a _ => hf a

theorem Within.mapError {Q₂ : ε₂ → Prop} {r : Run Event ε α} {f : ε → ε₂} (hr : Within P Q r)
    (hf : ∀ e, Q e → Q₂ (f e)) : Within P Q₂ (r.mapError f) := by
  refine ⟨hr.event, fun e he => ?_⟩
  cases h : r.outcome with
  | done a => simp [Run.mapError, h] at he
  | failed e' =>
    simp only [Run.mapError, h, Outcome.failed.injEq] at he
    rw [← he]
    exact hf e' (hr.failure e' h)
  | unfinished => simp [Run.mapError, h] at he

/-- A settled run does not fail. -/
theorem Within.settle {Q₂ : ε₂ → Prop} {r : Run Event ε α} (hr : Within P Q r)
    (f : Except ε α → β) : Within P Q₂ (r.settle f : Run Event ε₂ β) := by
  refine ⟨hr.event, fun e he => ?_⟩
  cases h : r.outcome <;> simp [Run.settle, h] at he

end

/-- A relation of runs, which may report different events, that is kept by values, by failures of a
given kind and by sequences. -/
structure Relation (Event Event' : Type) (Q : ε → Prop) where
  rel : ∀ {α : Type}, Run Event ε α → Run Event' ε α → Prop
  pure : ∀ {α : Type} (a : α), rel (Pure.pure a) (Pure.pure a)
  fail : ∀ {α : Type} {e : ε}, Q e → rel (Run.fail e : Run Event ε α) (Run.fail e)
  bind : ∀ {α β : Type} {r : Run Event ε α} {r' : Run Event' ε α} {f : α → Run Event ε β}
    {f' : α → Run Event' ε β}, rel r r' → (∀ a, rel (f a) (f' a)) → rel (r >>= f) (r' >>= f')

theorem Relation.ofExcept {Event' : Type} {Q : ε → Prop} (R : Relation Event Event' Q)
    {x : Except ε α} (h : ∀ e, x = .error e → Q e) :
    R.rel (ofExcept x : Run Event ε α) (Run.ofExcept x) := by
  cases x with
  | ok a => exact R.pure a
  | error e => exact R.fail (h e rfl)

def Relation.within {Event' : Type} {Q : ε → Prop} (P : Event → Prop) :
    Relation Event Event' Q where
  rel r _ := Within P (fun _ => True) r
  pure := within_pure
  fail _ := within_fail trivial
  bind := Within.bind

structure Congruence (P : Event → Prop) (Q : ε → Prop) where
  rel : ∀ {α : Type}, Run Event ε α → Run Event ε α → Prop
  within : ∀ {α : Type} {r : Run Event ε α}, Within P Q r → rel r r
  bind : ∀ {α β : Type} {r r' : Run Event ε α} {f f' : α → Run Event ε β},
    rel r r' → (∀ a, rel (f a) (f' a)) → rel (r >>= f) (r' >>= f')

namespace Congruence

variable {P : Event → Prop} {Q : ε → Prop} (R : Congruence P Q)

def bounded (P : Event → Prop) (Q : ε → Prop) : Congruence P Q where
  rel r _ := Within P (fun _ => True) r
  within h := h.mono (fun _ he => he) fun _ _ => trivial
  bind := Within.bind

theorem pure (a : α) : R.rel (Pure.pure a : Run Event ε α) (Pure.pure a) :=
  R.within (within_pure a)

theorem fail {e : ε} (h : Q e) : R.rel (fail e : Run Event ε α) (fail e) :=
  R.within (within_fail h)

theorem report {e : Event} (h : P e) : R.rel (report e) (report e) :=
  R.within (within_report h)

theorem ofExcept {x : Except ε α} (h : ∀ e, x = .error e → Q e) :
    R.rel (ofExcept x : Run Event ε α) (ofExcept x) :=
  R.within (within_ofExcept h)

def relation : Relation Event Event Q where
  rel := R.rel
  pure := R.pure
  fail := R.fail
  bind := R.bind

theorem forEach {f f' : α → Run Event ε β} (h : ∀ a, R.rel (f a) (f' a)) (as : List α) :
    R.rel (forEach f as) (forEach f' as) := by
  induction as with
  | nil => exact R.pure []
  | cons a rest ih => exact R.bind (h a) fun b => R.bind ih fun bs => R.pure (b :: bs)

end Congruence

section

variable {S : ε → Prop}

def Stopped (S : ε → Prop) (r : Run Event ε α) : Prop :=
  match r.outcome with
  | .done _ => False
  | .failed e => S e
  | .unfinished => True

theorem Stopped.bind {r : Run Event ε α} (h : Stopped S r) (f : α → Run Event ε β) :
    Stopped S (r >>= f) := by
  cases ho : r.outcome with
  | done a => simp [Stopped, ho] at h
  | failed e =>
    rw [bind_of_failed ho]
    simpa [Stopped, ho] using h
  | unfinished =>
    rw [bind_of_unfinished ho]
    trivial

theorem Stopped.mapError {S₂ : ε₂ → Prop} {r : Run Event ε α} {f : ε → ε₂} (h : Stopped S r)
    (hf : ∀ e, S e → S₂ (f e)) : Stopped S₂ (r.mapError f) := by
  cases ho : r.outcome with
  | done a => simp [Stopped, ho] at h
  | failed e =>
    simp only [Stopped, ho] at h
    simpa [Stopped, Run.mapError, ho] using hf e h
  | unfinished => simp [Stopped, Run.mapError, ho]

def SameUnless (S : ε → Prop) (r r' : Run Event ε α) : Prop :=
  Stopped S r ∨ r' = r

theorem SameUnless.bind {r r' : Run Event ε α} {f f' : α → Run Event ε β}
    (hr : SameUnless S r r') (hf : ∀ a, SameUnless S (f a) (f' a)) :
    SameUnless S (r >>= f) (r' >>= f') := by
  obtain hr | rfl := hr
  · exact .inl (hr.bind f)
  cases ho : r'.outcome with
  | done a =>
    rw [bind_of_done ho, bind_of_done ho]
    obtain hf | hf := hf a
    · exact .inl hf
    · exact .inr (by rw [hf])
  | failed e => exact .inr (by rw [bind_of_failed ho, bind_of_failed ho])
  | unfinished => exact .inr (by rw [bind_of_unfinished ho, bind_of_unfinished ho])

theorem SameUnless.mapError {S₂ : ε₂ → Prop} {r r' : Run Event ε α} {f : ε → ε₂}
    (h : SameUnless S r r') (hf : ∀ e, S e → S₂ (f e)) :
    SameUnless S₂ (r.mapError f) (r'.mapError f) := by
  obtain h | rfl := h
  · exact .inl (h.mapError hf)
  · exact .inr rfl

def sameUnless (P : Event → Prop) (Q S : ε → Prop) : Congruence P Q where
  rel := SameUnless S
  within _ := .inr rfl
  bind := SameUnless.bind

end

end ActionDispatch.Run
