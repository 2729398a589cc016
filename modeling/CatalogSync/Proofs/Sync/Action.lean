import CatalogSync.Proofs.Catalog.Calls
import CatalogSync.Sync.Session

namespace CatalogSync.Action

variable {σ α β : Type}

section Perform

@[simp] theorem perform_pure (a : α) (session : Session σ) :
    (pure a : Action σ α).perform session = (.ok a, session) := rfl

theorem perform_get (session : Session σ) :
    (get : Action σ (Session σ)).perform session = (.ok session, session) := rfl

theorem perform_set (next session : Session σ) :
    (set next : Action σ PUnit).perform session = (.ok (), next) := rfl

theorem perform_bind (action : Action σ α) (next : α → Action σ β) (session : Session σ) :
    (action >>= next).perform session =
      match action.perform session with
      | (.ok a, after) => (next a).perform after
      | (.error failure, after) => (.error failure, after) := by
  simp only [perform, bind, ExceptT.bind, ExceptT.run, ExceptT.mk, StateT.bind, StateT.run, Id.run]
  rcases (action session : Except Failure α × Session σ) with ⟨_ | _, _⟩ <;> rfl

theorem perform_orElse (action : Action σ α) (handle : Failure → Action σ α)
    (session : Session σ) :
    (action.orElse handle).perform session =
      match action.perform session with
      | (.ok a, after) => (.ok a, after)
      | (.error failure, after) => (handle failure).perform after := by
  simp only [perform, orElse, tryCatch, tryCatchThe, MonadExceptOf.tryCatch, ExceptT.tryCatch,
    bind, ExceptT.run, ExceptT.mk, StateT.bind, StateT.run, Id.run]
  rcases (action session : Except Failure α × Session σ) with ⟨_ | _, _⟩ <;> rfl

theorem perform_discard (action : Action σ α) (session : Session σ) :
    (discard action).perform session =
      ((action.perform session).1.map fun _ => (), (action.perform session).2) := by
  change (action >>= fun _ => pure ()).perform session = _
  rw [perform_bind]
  rcases action.perform session with ⟨_ | _, _⟩ <;> rfl

end Perform

-- With its client in state `before`, the action makes exactly `calls`, in this order, and gives
-- `result`. What was logged before and what is logged now does not matter.
def Makes (client : Client σ) (action : Action σ α) (before : σ) (calls : List Call)
    (result : Except Failure α) : Prop :=
  ∀ session : Session σ, session.catalog = before →
    (action.perform session).1 = result ∧
    (action.perform session).2.calls = session.calls ++ calls ∧
    (action.perform session).2.catalog = client.after calls before

variable {client : Client σ} {action : Action σ α} {before : σ} {calls first second : List Call}

theorem makes_pure (a : α) : Makes client (pure a) before [] (.ok a) := by
  intro session hs
  exact ⟨rfl, (List.append_nil _).symm, hs⟩

theorem makes_throw (failure : Failure) :
    Makes client (throw failure : Action σ α) before [] (.error failure) := by
  intro session hs
  exact ⟨rfl, (List.append_nil _).symm, hs⟩

theorem makes_ofExcept (result : Except Failure α) :
    Makes client (ofExcept result) before [] result := by
  intro session hs
  exact ⟨rfl, (List.append_nil _).symm, hs⟩

theorem makes_log (event : Event) : Makes client (log event) before [] (.ok ()) := by
  intro session hs
  exact ⟨rfl, (List.append_nil _).symm, hs⟩

theorem makes_call (call : Call) :
    Makes client (Action.call (some client) call) before [call] (client.answer call before).1 := by
  rintro session rfl
  exact ⟨rfl, rfl, rfl⟩

theorem Makes.exists_perform {result : Except Failure α}
    (h : Makes client action before calls result) (session : Session σ)
    (hs : session.catalog = before) :
    ∃ after, action.perform session = (result, after) ∧ after.calls = session.calls ++ calls ∧
      after.catalog = client.after calls before :=
  ⟨_, Prod.ext (h session hs).1 rfl, (h session hs).2⟩

theorem Makes.bind {next : α → Action σ β} {a : α} {result : Except Failure β}
    (h : Makes client action before first (.ok a))
    (hn : Makes client (next a) (client.after first before) second result) :
    Makes client (action >>= next) before (first ++ second) result := by
  intro session hs
  obtain ⟨middle, hp, hc, ht⟩ := h.exists_perform session hs
  obtain ⟨hr', hc', ht'⟩ := hn middle ht
  rw [perform_bind, hp]
  exact ⟨hr', by rw [hc', hc, List.append_assoc], by rw [ht', Client.after_append]⟩

theorem Makes.bind_error {next : α → Action σ β} {failure : Failure}
    (h : Makes client action before calls (.error failure)) :
    Makes client (action >>= next) before calls (.error failure) := by
  intro session hs
  obtain ⟨after, hp, hc, ht⟩ := h.exists_perform session hs
  rw [perform_bind, hp]
  exact ⟨rfl, hc, ht⟩

theorem Makes.orElse_ok {handle : Failure → Action σ α} {a : α}
    (h : Makes client action before calls (.ok a)) :
    Makes client (action.orElse handle) before calls (.ok a) := by
  intro session hs
  obtain ⟨after, hp, hc, ht⟩ := h.exists_perform session hs
  rw [perform_orElse, hp]
  exact ⟨rfl, hc, ht⟩

theorem Makes.orElse_error {handle : Failure → Action σ α} {failure : Failure}
    {result : Except Failure α} (h : Makes client action before first (.error failure))
    (hh : Makes client (handle failure) (client.after first before) second result) :
    Makes client (action.orElse handle) before (first ++ second) result := by
  intro session hs
  obtain ⟨middle, hp, hc, ht⟩ := h.exists_perform session hs
  obtain ⟨hr', hc', ht'⟩ := hh middle ht
  rw [perform_orElse, hp]
  exact ⟨hr', by rw [hc', hc, List.append_assoc], by rw [ht', Client.after_append]⟩

theorem Makes.ofExcept_bind {found : Except Failure α} {a : α} {next : α → Action σ β}
    {result : Except Failure β} (hf : found = .ok a)
    (h : Makes client (next a) before calls result) :
    Makes client (ofExcept found >>= next) before calls result := by
  subst hf
  exact (makes_ofExcept (.ok a)).bind h

theorem makes_ofExcept_bind_error {found : Except Failure α} {failure : Failure}
    {next : α → Action σ β} (hf : found = .error failure) :
    Makes client (ofExcept found >>= next) before [] (.error failure) := by
  subst hf
  exact (makes_ofExcept (.error failure)).bind_error

theorem Makes.discard {result : Except Failure α} (h : Makes client action before calls result) :
    Makes client (Functor.discard action) before calls (result.map fun _ => ()) := by
  intro session hs
  obtain ⟨after, hp, hc, ht⟩ := h.exists_perform session hs
  rw [perform_discard, hp]
  exact ⟨rfl, hc, ht⟩

-- An action that only logs something before it goes on makes the calls of what follows.
theorem Makes.log_bind {event : Event} {result : Except Failure α}
    (h : Makes client action before calls result) :
    Makes client (do log event; action) before calls result :=
  (makes_log event).bind h

end CatalogSync.Action
