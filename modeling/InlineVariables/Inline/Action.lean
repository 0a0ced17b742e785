import InlineVariables.Inline.Host

/-!
Actions on a host. An action leaves a host whether it succeeds or fails, and what it had done to the host
before it failed stays done.
-/

namespace InlineVariables.Inline

/-- How an action ends: the host as it is then, and the outcome with the events. -/
@[ext]
structure Aftermath (ε α : Type) where
  host : PlainHost
  run : Run ε α

namespace Aftermath

variable {ε α : Type}

def events (aftermath : Aftermath ε α) : List Event :=
  aftermath.run.events

/-- The host and what the action gives, or its failure. -/
def result (aftermath : Aftermath ε α) : Except ε (PlainHost × α) :=
  aftermath.run.result.map (aftermath.host, ·)

theorem result_eq_error_iff {aftermath : Aftermath ε α} {e : ε} :
    aftermath.result = .error e ↔ aftermath.run.result = .error e := by
  unfold result
  cases aftermath.run.result <;> simp [Except.map]

theorem result_eq_ok_iff {aftermath : Aftermath ε α} {host : PlainHost} {a : α} :
    aftermath.result = .ok (host, a) ↔ aftermath.host = host ∧ aftermath.run.result = .ok a := by
  unfold result
  cases aftermath.run.result <;> simp [Except.map]

end Aftermath

def Action (ε α : Type) : Type :=
  PlainHost → Aftermath ε α

namespace Action

variable {ε δ α β : Type}

/-- Asks something of the host, which stays as it is. -/
def ask (question : PlainHost → Run ε α) : Action ε α :=
  fun host => ⟨host, question host⟩

/-- Works on the host. -/
def change (f : PlainHost → PlainHost) : Action ε Unit :=
  fun host => ⟨f host, .ok ()⟩

/-- One action and, unless it fails, another on the host that it leaves. -/
def andThen (first : Action ε α) (next : α → Action ε β) : Action ε β :=
  fun host =>
    let reached := first host
    { host :=
        match reached.run.result with
        | .ok a => (next a reached.host).host
        | .error _ => reached.host
      run := reached.run.andThen fun a => (next a reached.host).run }

instance : Monad (Action ε) where
  pure a := ask fun _ => .ok a
  bind := andThen

def mapError (f : ε → δ) (action : Action ε α) : Action δ α :=
  fun host => ⟨(action host).host, (action host).run.mapError f⟩

theorem host_andThen_of_ok {first : Action ε α} {host : PlainHost} {a : α}
    (next : α → Action ε β) (yields : (first host).run.result = .ok a) :
    (first.andThen next host).host = (next a (first host).host).host := by
  simp [andThen, yields]

/-- What was done before the failure stays done. -/
theorem host_andThen_of_error {first : Action ε α} {host : PlainHost} {e : ε}
    (next : α → Action ε β) (fails : (first host).run.result = .error e) :
    (first.andThen next host).host = (first host).host := by
  simp [andThen, fails]

/-- Other terms for a failure, and what is made of the value, leave the host alone. -/
theorem mapError_bind_pure (f : ε → δ) (g : α → β) (action : Action ε α) (host : PlainHost) :
    (action.mapError f >>= fun a => pure (g a)) host =
      ⟨(action host).host, ((action host).run.mapError f).andThen fun a => .ok (g a)⟩ := by
  have alone : ((action.mapError f >>= fun a => pure (g a)) host).host = (action host).host := by
    cases yields : ((action.mapError f) host).run.result with
    | ok a => exact host_andThen_of_ok _ yields
    | error e => exact host_andThen_of_error _ yields
  exact Aftermath.ext alone rfl

end Action

end InlineVariables.Inline
