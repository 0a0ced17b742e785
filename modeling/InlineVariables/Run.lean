import InlineVariables.Event

/-!
Runs: a result or a failure, with the events reported on the way. A failure stops a run and keeps
what was reported before it.
-/

namespace InlineVariables

/-- The outcome of a computation that reports events. -/
structure Run (ε α : Type) where
  result : Except ε α
  events : List Event

namespace Run

variable {ε α β : Type}

/-- A run that reports nothing and yields a value. -/
def ok (a : α) : Run ε α :=
  ⟨.ok a, []⟩

def fail (e : ε) : Run ε α :=
  ⟨.error e, []⟩

def report (event : Event) : Run ε Unit :=
  ⟨.ok (), [event]⟩

def ofExcept (result : Except ε α) : Run ε α :=
  ⟨result, []⟩

def andThen (first : Run ε α) (next : α → Run ε β) : Run ε β :=
  match first.result with
  | .ok a => ⟨(next a).result, first.events ++ (next a).events⟩
  | .error e => ⟨.error e, first.events⟩

instance : Monad (Run ε) where
  pure := ok
  bind := andThen

/-- The same run with its failure put into other terms. -/
def mapError {δ : Type} (f : ε → δ) (r : Run ε α) : Run δ α :=
  ⟨r.result.mapError f, r.events⟩

@[simp] theorem pure_eq (a : α) : (pure a : Run ε α) = ok a := rfl

@[simp] theorem bind_eq (r : Run ε α) (next : α → Run ε β) : (r >>= next) = r.andThen next := rfl

@[simp] theorem andThen_ok (a : α) (next : α → Run ε β) : (ok a).andThen next = next a := rfl

@[simp] theorem andThen_fail (e : ε) (next : α → Run ε β) : (fail e).andThen next = fail e := rfl

@[simp] theorem result_report (event : Event) :
    (report event : Run ε Unit).result = .ok () := rfl

theorem andThen_of_ok {r : Run ε α} {a : α} (next : α → Run ε β) (yields : r.result = .ok a) :
    r.andThen next = ⟨(next a).result, r.events ++ (next a).events⟩ := by
  simp [andThen, yields]

@[simp] theorem andThen_pure (r : Run ε α) : (r.andThen fun a => ok a) = r := by
  obtain ⟨result, events⟩ := r
  cases result <;> simp [andThen, ok]

theorem mk_andThen_ok (a : α) (events : List Event) (f : α → β) :
    (Run.mk (ε := ε) (.ok a) events).andThen (fun a => ok (f a)) = ⟨.ok (f a), events⟩ := by
  simp [andThen, ok]

theorem andThen_ok_events (r : Run ε α) (f : α → β) :
    (r.andThen fun a => ok (f a)).events = r.events := by
  obtain ⟨result, events⟩ := r
  cases result with
  | error e => rfl
  | ok a => exact congrArg Run.events (mk_andThen_ok a events f)

theorem andThen_of_error {r : Run ε α} {e : ε} (next : α → Run ε β)
    (fails : r.result = .error e) : r.andThen next = ⟨.error e, r.events⟩ := by
  simp [andThen, fails]

theorem andThen_result_ok_iff {r : Run ε α} {next : α → Run ε β} {b : β} :
    (r.andThen next).result = .ok b ↔ ∃ a, r.result = .ok a ∧ (next a).result = .ok b := by
  cases yields : r.result <;> simp [andThen, yields]

theorem andThen_result_error_iff {r : Run ε α} {next : α → Run ε β} {e : ε} :
    (r.andThen next).result = .error e ↔
      r.result = .error e ∨ ∃ a, r.result = .ok a ∧ (next a).result = .error e := by
  cases yields : r.result <;> simp [andThen, yields]

theorem andThen_result_congr {r : Run ε α} {next other : α → Run ε β}
    (same : ∀ a, r.result = .ok a → (next a).result = (other a).result) :
    (r.andThen next).result = (r.andThen other).result := by
  cases yields : r.result with
  | error e => rw [andThen_of_error _ yields, andThen_of_error _ yields]
  | ok a =>
    rw [andThen_of_ok _ yields, andThen_of_ok _ yields]
    exact same a yields

theorem andThen_result_congr_left {r s : Run ε α} {next : α → Run ε β} (same : r.result = s.result) :
    (r.andThen next).result = (s.andThen next).result := by
  cases yields : s.result with
  | error e => rw [andThen_of_error _ (same.trans yields), andThen_of_error _ yields]
  | ok a => rw [andThen_of_ok _ (same.trans yields), andThen_of_ok _ yields]

theorem mem_events_andThen {r : Run ε α} {next : α → Run ε β} {event : Event}
    (reported : event ∈ (r.andThen next).events) :
    event ∈ r.events ∨ ∃ a, r.result = .ok a ∧ event ∈ (next a).events := by
  cases yields : r.result with
  | error e =>
    rw [andThen_of_error next yields] at reported
    exact .inl reported
  | ok a =>
    rw [andThen_of_ok next yields] at reported
    rcases List.mem_append.1 reported with first | later
    · exact .inl first
    · exact .inr ⟨a, rfl, later⟩

theorem andThen_assoc {γ : Type} (r : Run ε α) (next : α → Run ε β) (last : β → Run ε γ) :
    (r.andThen next).andThen last = r.andThen fun a => (next a).andThen last := by
  cases yields : r.result with
  | error e => simp [andThen, yields]
  | ok a =>
    cases again : (next a).result with
    | error e => simp [andThen, yields, again]
    | ok b => simp [andThen, yields, again, List.append_assoc]

instance : LawfulMonad (Run ε) :=
  LawfulMonad.mk' (Run ε) (fun r => andThen_pure r) (fun _ _ => rfl)
    fun r next last => andThen_assoc r next last

theorem mapError_andThen {δ : Type} (f : ε → δ) (r : Run ε α) (next : α → Run ε β) :
    (r.andThen next).mapError f = (r.mapError f).andThen fun a => (next a).mapError f := by
  obtain ⟨result, events⟩ := r
  cases result with
  | error e => rfl
  | ok a => rfl

end Run

end InlineVariables
