import TrainingPortal.Proofs.Conversation

/-!
# Every login ends once

In the course of a conversation logins are made, one after the other, and each is numbered by its
place among them. A `Chapter` is what befalls one of them, and a history the chapters of all.

* `Record`: a history of these logins, of which these are still open.
* `Accounted`: a trace has such a history, which tells everything that it shows of logins.
* `Accounted.step`: a step carries a history on.
* `lives_hold`: at the end of a conversation every login has begun once and then ended once.
-/

namespace TrainingPortal.Conversation

open Http

/-! ## Histories -/

/-- What befalls a login. -/
inductive Fate
  | begun
  /-- Its token was handed back, whatever the portal said to that. -/
  | handedBack
  /-- It was dropped with its token. -/
  | dropped
  deriving DecidableEq

/-- What shows of a login when this befalls it. -/
def Fate.event (l : Login) : Fate → Event
  | begun => .logged (Login.greeting l.base)
  | handedBack => .called l.revokeCall
  | dropped => .logged (Login.dropWarning l.base)

/-- Something that befalls one of the logins. -/
structure Chapter where
  /-- The place of the login among those that were made. -/
  number : Nat
  login : Login
  fate : Fate

/-- What shows of a chapter. -/
def Chapter.event (c : Chapter) : Event := c.fate.event c.login

/-- What befell the login with this number, in order. -/
def story (history : List Chapter) (i : Nat) : List Fate :=
  (history.filter (·.number == i)).map (·.fate)

@[simp] theorem story_append (s t : List Chapter) (i : Nat) :
    story (s ++ t) i = story s i ++ story t i := by
  simp [story]

theorem story_self (c : Chapter) : story [c] c.number = [c.fate] := by
  simp [story]

theorem story_of_ne {c : Chapter} {i : Nat} (h : c.number ≠ i) : story [c] i = [] := by
  simp [story, h]

/-- How often this befell a login. -/
def tally (fate : Fate) (history : List Chapter) : Nat := history.countP (·.fate == fate)

@[simp] theorem tally_append (fate : Fate) (s t : List Chapter) :
    tally fate (s ++ t) = tally fate s + tally fate t :=
  List.countP_append

theorem tally_singleton (fate : Fate) (c : Chapter) :
    tally fate [c] = if c.fate = fate then 1 else 0 := by
  simp [tally, List.countP_singleton]

/-- The history of these logins, of which these are still open. -/
structure Record (made : List Login) (opened : List Nat) (history : List Chapter) : Prop where
  /-- Every chapter is about the login whose number it bears. -/
  genuine : ∀ c ∈ history, made[c.number]? = some c.login
  open_begun : ∀ i ∈ opened, story history i = [.begun]
  ended_once : ∀ i < made.length, i ∉ opened →
    story history i = [.begun, .handedBack] ∨ story history i = [.begun, .dropped]
  all_begun : made.length = tally .begun history
  balance : made.length =
    tally .handedBack history + tally .dropped history + opened.length

namespace Record

variable {made : List Login} {opened : List Nat} {history : List Chapter}

theorem nil : Record [] [] [] :=
  ⟨by simp, by simp, by simp, rfl, rfl⟩

theorem lt_of_mem (h : Record made opened history) {c : Chapter} (hc : c ∈ history) :
    c.number < made.length :=
  (List.getElem?_eq_some_iff.1 (h.genuine c hc)).1

theorem story_fresh (h : Record made opened history) : story history made.length = [] := by
  have none : history.filter (·.number == made.length) = [] := by
    refine List.filter_eq_nil_iff.2 fun c hc => ?_
    simpa using Nat.ne_of_lt (h.lt_of_mem hc)
  rw [story, none, List.map_nil]

/-- A login begins. -/
theorem begin (h : Record made opened history) (l : Login) :
    Record (made ++ [l]) (made.length :: opened)
      (history ++ [⟨made.length, l, .begun⟩]) := by
  have before : ∀ i, i ≠ made.length →
      story (history ++ [⟨made.length, l, .begun⟩]) i = story history i := fun i hi => by
    rw [story_append, story_of_ne hi.symm, List.append_nil]
  refine ⟨fun c hc => ?_, fun i hi => ?_, fun i hi closed => ?_, ?_, ?_⟩
  · rcases List.mem_append.1 hc with hc | hc
    · rw [List.getElem?_append_left (h.lt_of_mem hc)]
      exact h.genuine c hc
    · obtain rfl := List.mem_singleton.1 hc
      exact List.getElem?_concat_length
  · by_cases fresh : i = made.length
    · subst fresh
      rw [story_append, h.story_fresh]
      exact story_self _
    · rw [before i fresh]
      exact h.open_begun i ((List.mem_cons.1 hi).resolve_left fresh)
  · have old := List.ne_of_not_mem_cons closed
    rw [before i old]
    rw [List.length_append, List.length_singleton] at hi
    exact h.ended_once i (by omega) (List.not_mem_of_not_mem_cons closed)
  · simp [tally_singleton, h.all_begun]
  · have balance := h.balance
    simp [tally_singleton]
    omega

/-- An open login ends. -/
theorem finish {i : Nat} (h : Record made (i :: opened) history) (once : i ∉ opened) {l : Login}
    (hl : made[i]? = some l) {fate : Fate} (ending : fate = .handedBack ∨ fate = .dropped) :
    Record made opened (history ++ [⟨i, l, fate⟩]) := by
  have others : ∀ j, j ≠ i → story (history ++ [⟨i, l, fate⟩]) j = story history j := fun j hj => by
    rw [story_append, story_of_ne hj.symm, List.append_nil]
  refine ⟨fun c hc => ?_, fun j hj => ?_, fun j hj closed => ?_, ?_, ?_⟩
  · rcases List.mem_append.1 hc with hc | hc
    · exact h.genuine c hc
    · obtain rfl := List.mem_singleton.1 hc
      exact hl
  · have other : j ≠ i := fun same => once (same ▸ hj)
    rw [others j other]
    exact h.open_begun j (List.mem_cons_of_mem i hj)
  · by_cases same : j = i
    · subst same
      have whole : story (history ++ [⟨j, l, fate⟩]) j = [.begun, fate] := by
        rw [story_append, h.open_begun j (List.mem_cons_self ..)]
        exact congrArg (Fate.begun :: ·) (story_self ⟨j, l, fate⟩)
      rcases ending with rfl | rfl
      · exact .inl whole
      · exact .inr whole
    · rw [others j same]
      exact h.ended_once j hj (List.not_mem_cons_of_ne_of_not_mem same closed)
  · rcases ending with rfl | rfl <;> simp [tally_singleton, h.all_begun]
  · have balance := h.balance
    rw [List.length_cons] at balance
    rcases ending with rfl | rfl <;> simp [tally_singleton] <;> omega

/-- In which order the open logins are listed says nothing. -/
theorem swap {i j : Nat} (h : Record made (i :: j :: opened) history) :
    Record made (j :: i :: opened) history := by
  have perm : (j :: i :: opened).Perm (i :: j :: opened) := .swap ..
  exact ⟨h.genuine, fun k hk => h.open_begun k (perm.mem_iff.1 hk),
    fun k hk closed => h.ended_once k hk fun mem => closed (perm.mem_iff.2 mem), h.all_begun,
    h.balance⟩

end Record

/-! ## Histories of a trace -/

/-- The trace has a history of these logins, of which these are still open. -/
def Accounted (made : List Login) (opened : List Nat) (trace : List Event) : Prop :=
  ∃ history, Record made opened history ∧
    history.map Chapter.event = trace.filter Event.isOfLogin

theorem isOfLogin_event (fate : Fate) (l : Login) : (fate.event l).isOfLogin = true := by
  cases fate <;> simp [Fate.event, Event.isOfLogin]

/-- A chapter more is an event more. -/
theorem map_event_append {history : List Chapter} {trace : List Event}
    (shows : history.map Chapter.event = trace.filter Event.isOfLogin) (i : Nat) (l : Login)
    (fate : Fate) :
    (history ++ [(⟨i, l, fate⟩ : Chapter)]).map Chapter.event =
      (trace ++ [fate.event l]).filter Event.isOfLogin := by
  rw [List.map_append, List.filter_append, shows, List.filter_cons_of_pos (isOfLogin_event fate l)]
  rfl

namespace Accounted

variable {made : List Login} {opened : List Nat} {trace : List Event}

theorem nil : Accounted [] [] [] := ⟨[], .nil, rfl⟩

/-- What concerns no login changes nothing. -/
theorem pass (h : Accounted made opened trace) {more : List Event}
    (neutral : ∀ event ∈ more, event.Neutral) : Accounted made opened (trace ++ more) := by
  obtain ⟨history, record, shows⟩ := h
  have nothing : more.filter Event.isOfLogin = [] :=
    List.filter_eq_nil_iff.2 fun event mem => by simp [(neutral event mem).isOfLogin]
  exact ⟨history, record, by rw [shows, List.filter_append, nothing, List.append_nil]⟩

theorem begin (h : Accounted made opened trace) (l : Login) :
    Accounted (made ++ [l]) (made.length :: opened) (trace ++ [Fate.begun.event l]) := by
  obtain ⟨history, record, shows⟩ := h
  exact ⟨_, record.begin l, map_event_append shows _ l .begun⟩

theorem finish {i : Nat} (h : Accounted made (i :: opened) trace) (once : i ∉ opened) {l : Login}
    (hl : made[i]? = some l) {fate : Fate} (ending : fate = .handedBack ∨ fate = .dropped) :
    Accounted made opened (trace ++ [fate.event l]) := by
  obtain ⟨history, record, shows⟩ := h
  exact ⟨_, record.finish once hl ending, map_event_append shows i l fate⟩

theorem swap {i j : Nat} (h : Accounted made (i :: j :: opened) trace) :
    Accounted made (j :: i :: opened) trace := by
  obtain ⟨history, record, shows⟩ := h
  exact ⟨history, record.swap, shows⟩

end Accounted

/-! ## The login that is kept -/

/-- A login that is kept is the only one that is open. -/
inductive Kept (made : List Login) : Option Login → List Nat → Prop
  | nothing : Kept made none []
  | login {l : Login} {i : Nat} (h : made[i]? = some l) : Kept made (some l) [i]

namespace Kept

variable {made : List Login} {login : Option Login} {opened : List Nat}

theorem lt_of_mem (h : Kept made login opened) {i : Nat} (hi : i ∈ opened) : i < made.length := by
  cases h with
  | nothing => exact absurd hi List.not_mem_nil
  | login hl =>
    obtain rfl := List.mem_singleton.1 hi
    exact (List.getElem?_eq_some_iff.1 hl).1

theorem append (h : Kept made login opened) (more : List Login) :
    Kept (made ++ more) login opened := by
  cases h with
  | nothing => exact .nothing
  | login hl =>
    refine .login ?_
    rw [List.getElem?_append_left (List.getElem?_eq_some_iff.1 hl).1]
    exact hl

/-- The login that was made last is kept. -/
theorem last (made : List Login) (l : Login) : Kept (made ++ [l]) (some l) [made.length] :=
  .login List.getElem?_concat_length

end Kept

variable {c c' : Conversation} {made : List Login} {new : Option Login} {opened : List Nat}
  {trace more : List Event}

/-- **A step carries a history on**, and what is kept after it is what is open. -/
theorem Accounted.step (h : Accounted made opened trace) (kept : Kept made c.login opened)
    (effect : Effect c c' new more) :
    ∃ opened', Accounted (made ++ new.toList) opened' (trace ++ more) ∧
      Kept (made ++ new.toList) c'.login opened' := by
  cases effect with
  | nothing login noLogin neutral =>
    subst noLogin
    rw [login, Option.toList_none, List.append_nil]
    exact ⟨opened, h.pass neutral, kept⟩
  | begun l before login login' neutral shows =>
    subst login' shows
    have begun := (h.pass neutral).begin l
    rw [login, Option.toList_some]
    cases before_kept : c.login with
    | none =>
      rw [before_kept] at kept
      cases kept
      refine ⟨[made.length], ?_, .last made l⟩
      rwa [List.append_assoc] at begun
    | some old =>
      rw [before_kept] at kept
      have hlt : ∀ i ∈ opened, i < made.length := fun i => kept.lt_of_mem
      cases kept.append [l] with
      | login hold =>
        refine ⟨[made.length], ?_, .last made l⟩
        have other := Nat.ne_of_lt (hlt _ (List.mem_singleton_self _))
        have ended := begun.swap.finish (by simpa using other) hold (.inr rfl)
        rw [List.append_assoc, List.append_assoc] at ended
        exact ended
  | handedBack l after was login noLogin neutral shows =>
    subst noLogin shows
    rw [was] at kept
    cases kept with
    | login hl =>
      have ended := (h.finish List.not_mem_nil hl (.inl rfl)).pass neutral
      rw [login, Option.toList_none, List.append_nil]
      rw [List.append_assoc] at ended
      exact ⟨[], ended, .nothing⟩
  | dropped l was login noLogin shows =>
    subst noLogin shows
    rw [was] at kept
    cases kept with
    | login hl =>
      rw [login, Option.toList_none, List.append_nil]
      exact ⟨[], h.finish List.not_mem_nil hl (.inr rfl), .nothing⟩
  | carriedOut l before between after login login' neutralBefore neutralBetween neutralAfter
      shows =>
    subst login' shows
    have fresh : made.length ∉ opened := fun mem => Nat.lt_irrefl _ (kept.lt_of_mem mem)
    have begun := ((h.pass neutralBefore).begin l).pass neutralBetween
    have ended := (begun.finish fresh List.getElem?_concat_length (.inl rfl)).pass neutralAfter
    rw [login, Option.toList_some]
    simp only [List.append_assoc, List.cons_append, List.nil_append] at ended
    exact ⟨opened, ended, kept.append [l]⟩

/-- Any number of steps carry a history on. -/
theorem accounted_performAll (steps : List Step) (n : Network) (h : Accounted made opened trace)
    (kept : Kept made c.login opened) :
    ∃ opened', Accounted (made ++ logins steps c n) opened'
        (trace ++ (performAll steps c n).trace) ∧
      Kept (made ++ logins steps c n) (performAll steps c n).value.1.2.login opened' := by
  induction steps generalizing c n made opened trace with
  | nil =>
    refine ⟨opened, ?_, ?_⟩
    · rw [logins, List.append_nil]
      exact (List.append_nil trace).symm ▸ h
    · rw [logins, List.append_nil]
      exact kept
  | cons s rest ih =>
    obtain ⟨opened₁, h₁, kept₁⟩ := h.step kept (effect_perform s c n)
    obtain ⟨opened₂, h₂, kept₂⟩ := ih (s.left c n) h₁ kept₁
    obtain ⟨next, shows⟩ := run_cons s rest c n
    refine ⟨opened₂, ?_, ?_⟩
    · rw [logins, shows, ← List.append_assoc, ← List.append_assoc]
      exact h₂
    · rw [logins, next, ← List.append_assoc]
      exact kept₂

/-- At the end of a conversation no login is open. -/
theorem accounted_hold (steps : List Step) (n : Network) :
    Accounted (logins steps {} n) [] (hold steps n).trace := by
  obtain ⟨opened, h, kept⟩ := accounted_performAll (c := {}) steps n .nil .nothing
  simp only [List.nil_append] at h kept
  rw [trace_hold, trace_close]
  cases last : (performAll steps {} n).value.1.2.login with
  | none =>
    rw [last] at kept
    cases kept
    exact (List.append_nil (performAll steps {} n).trace).symm ▸ h
  | some l =>
    rw [last] at kept
    cases kept with
    | login hl => exact h.finish List.not_mem_nil hl (.inr rfl)

/-! ## Counting -/

/-- As often as this befalls a login, it shows. -/
theorem countP_eq_tally {β : Type} (part? : Event → Option β) (p : β → Bool)
    {history : List Chapter} {fate : Fate}
    (shows : history.map Chapter.event = trace.filter Event.isOfLogin)
    (landmark : ∀ event part, part? event = some part → p part → event.isOfLogin)
    (told : ∀ fate' l, ((part? (Fate.event l fate')).map p).getD false = (fate' == fate)) :
    (trace.filterMap part?).countP p = tally fate history :=
  calc (trace.filterMap part?).countP p
      = trace.countP fun event => ((part? event).map p).getD false := List.countP_filterMap
    _ = (trace.filter Event.isOfLogin).countP fun event => ((part? event).map p).getD false := by
        rw [List.countP_filter]
        refine List.countP_congr fun event _ => ?_
        cases found : part? event with
        | none => simp
        | some part => simpa using landmark event part found
    _ = (history.map Chapter.event).countP fun event => ((part? event).map p).getD false := by
        rw [shows]
    _ = tally fate history := by
        rw [List.countP_map]
        exact List.countP_congr fun c _ => by simp [Chapter.event, told]

/-- **Every login ends once.** In the course of a conversation as many logins are made as tokens are
handed back and logins given up, and everything that shows of logins is the history of these, in
which each begins and then either has its token handed back or is dropped, and nothing else befalls
it. -/
theorem lives_hold (steps : List Step) (n : Network) :
    let made := logins steps {} n
    let trace := (hold steps n).trace
    made.length = (Traced.entries trace).countP LogEntry.isGreeting ∧
    made.length = (Traced.calls trace).countP Call.isRevocation +
      (Traced.entries trace).countP LogEntry.isDropWarning ∧
    ∃ history : List Chapter,
      history.map Chapter.event = trace.filter Event.isOfLogin ∧
      (∀ c ∈ history, made[c.number]? = some c.login) ∧
      ∀ i < made.length,
        story history i = [.begun, .handedBack] ∨ story history i = [.begun, .dropped] := by
  intro made trace
  obtain ⟨history, record, shows⟩ := accounted_hold steps n
  have greetings : (Traced.entries trace).countP LogEntry.isGreeting = tally .begun history := by
    refine countP_eq_tally Event.entry? _ shows ?_ ?_
    · rintro (_ | _) _ ⟨⟩ greets
      simp [Event.isOfLogin, greets]
    · rintro (_ | _ | _) l <;> simp [Fate.event, Event.entry?]
  have revocations : (Traced.calls trace).countP Call.isRevocation = tally .handedBack history := by
    refine countP_eq_tally Event.call? _ shows ?_ ?_
    · rintro (_ | _) _ ⟨⟩ revokes
      exact revokes
    · rintro (_ | _ | _) l <;> simp [Fate.event, Event.call?]
  have warnings :
      (Traced.entries trace).countP LogEntry.isDropWarning = tally .dropped history := by
    refine countP_eq_tally Event.entry? _ shows ?_ ?_
    · rintro (_ | _) _ ⟨⟩ warns
      simp [Event.isOfLogin, warns]
    · rintro (_ | _ | _) l <;> simp [Fate.event, Event.entry?]
  refine ⟨?_, ?_, history, shows, record.genuine, fun i hi => record.ended_once i hi ?_⟩
  · rw [greetings, record.all_begun]
  · rw [revocations, warnings]
    exact record.balance
  · exact List.not_mem_nil

end TrainingPortal.Conversation
