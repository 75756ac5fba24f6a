import TrainingPortal.Proofs.Discipline

/-!
# Requests and the calls that they leave for

Every request that an operation sends leaves for one of its calls (`PortalM.Answerable`), so what is
true of the addresses of the calls says where the requests go. This holds of the operations of a
login one by one and of every operation of a broker (`answerable_carryOut`).
-/

namespace TrainingPortal

open Http

namespace Http

/-- Every request of a trace leaves for a call of the trace. -/
def Answerable (trace : List Event) : Prop :=
  ∀ q ∈ Traced.requests trace, ∃ c ∈ Traced.calls trace, c.request = .ok q

namespace Answerable

theorem logged (log : List LogEntry) : Answerable (log.map .logged) := by simp [Answerable]

theorem append {s t : List Event} (hs : Answerable s) (ht : Answerable t) :
    Answerable (s ++ t) := by
  intro q hq
  rw [Traced.requests_append, List.mem_append] at hq
  rw [Traced.calls_append]
  rcases hq with hq | hq
  · obtain ⟨c, hc, request⟩ := hs q hq
    exact ⟨c, List.mem_append_left _ hc, request⟩
  · obtain ⟨c, hc, request⟩ := ht q hq
    exact ⟨c, List.mem_append_right _ hc, request⟩

theorem attempt (c : Call) (n : Network) : Answerable (attempt c n).trace := by
  intro q hq
  refine ⟨c, by simp, ?_⟩
  rw [attempt_eq] at hq
  cases leaves : c.departure n.connected with
  | error failure =>
    rw [leaves] at hq
    cases hq
  | ok r =>
    rw [leaves] at hq
    obtain rfl := List.mem_singleton.1 hq
    exact (Call.departure_eq_ok.1 leaves).2

end Answerable

end Http

namespace PortalM

variable {α β : Type} {P : LogEntry → Prop} {x : PortalM α}

theorem Quiet.answerable {r : Except PortalError α} (hx : Quiet P x r) (n : Network) :
    Answerable (x.trace n) := by
  obtain ⟨log, -, hx⟩ := hx
  rw [trace, hx]
  exact .logged log

theorem Exchange.answerable {c : Call}
    {judge : Except TransportFailure Response → Except PortalError α} (hx : Exchange P x c judge)
    (n : Network) : Answerable (x.trace n) := by
  obtain ⟨before, after, -, -, hx⟩ := hx
  rw [trace, hx]
  exact ((Answerable.logged _).append (.attempt c n)).append (.logged _)

theorem Plain.answerable (n : Network) : Plain x → Answerable (x.trace n)
  | .quiet h => h.answerable n
  | .exchange h _ => h.answerable n

theorem answerable_bind {f : α → PortalM β} (hx : ∀ n, Answerable (x.trace n))
    (hf : ∀ a n, Answerable ((f a).trace n)) (n : Network) : Answerable ((x >>= f).trace n) := by
  rw [trace_bind]
  refine (hx n).append ?_
  cases x.outcome n with
  | ok a => exact hf a _
  | error e => exact .logged []

end PortalM

namespace Broker

open PortalM

variable {α : Type}

theorem answerable_logIn (b : Broker) (n : Network) : Answerable (b.logIn.trace n) := by
  cases valid : b.credentials.validate with
  | ok => exact (Login.exchange_start valid b.base).answerable n
  | error e => exact (Login.quiet_start valid b.base).answerable n

theorem answerable_work (b : Broker) (o : Operation α) (l : Login) (n : Network) :
    Answerable ((b.work o l).trace n) := by
  cases o with
  | request r =>
    exact answerable_bind (fun n => (b.plain_resolve r l).answerable n)
      (fun _ n => (l.plain_requestSession _ _).answerable n) n
  | terminate session => exact (l.plain_terminateSession session).answerable n
  | list => exact l.plain_listEnvironments.answerable n

/-- Every request of an operation leaves for one of its calls. -/
theorem answerable_carryOut (b : Broker) (o : Operation α) (n : Network) :
    Answerable ((b.carryOut o).trace n) := by
  rcases b.trace_carryOut o n with ⟨e, -, eq⟩ | ⟨l, -, log, -, eq⟩ <;> rw [eq]
  · exact b.answerable_logIn n
  · exact (b.answerable_logIn n).append
      ((b.answerable_work o l _).append ((Answerable.attempt _ _).append (.logged log)))

end Broker

end TrainingPortal
