import Mathlib.Data.List.Infix
import TrainingPortal.Proofs.Digits
import TrainingPortal.Proofs.Exchange

/-!
# Texts that quote others

A text that quotes others has the line breaks that these have, and its own words add none.
`Quotes` says which texts a text may quote, and `Quotes.onOneLine_iff` what that comes to: the text
is on one line exactly if each of these texts is that stands in it. `Cites` says the same of the
error that may come of a computation, and is kept where computations follow one another.
-/

namespace TrainingPortal

namespace Text

/-! ## Line breaks -/

/-- Whether a line ends at a character, as Unicode has it: line feed, vertical tabulation, form
feed, carriage return, next line, line separator and paragraph separator. -/
def breaksLine (c : Char) : Bool :=
  [0x0A, 0x0B, 0x0C, 0x0D, 0x85, 0x2028, 0x2029].contains c.toNat

/-- Whether no line ends within a text. -/
def OnOneLine (s : String) : Prop := s.toList.any breaksLine = false

instance (s : String) : Decidable (OnOneLine s) := inferInstanceAs (Decidable (_ = false))

variable {s t : String}

@[simp] theorem onOneLine_append : OnOneLine (s ++ t) ↔ OnOneLine s ∧ OnOneLine t := by
  simp [OnOneLine, List.any_append]

/-- Whatever stands in a text on one line is on one line. -/
theorem OnOneLine.of_isInfix (h : OnOneLine t) (inside : s.toList <:+: t.toList) : OnOneLine s :=
  List.any_eq_false.2 fun c mem => List.any_eq_false.1 h c (inside.subset mem)

theorem breaksLine_of_isDigit {c : Char} (h : isDigit c = true) : breaksLine c = false := by
  simp only [isDigit, Bool.and_eq_true, decide_eq_true_eq, Char.le_def] at h
  have range : 0x30 ≤ c.toNat ∧ c.toNat ≤ 0x39 := h
  simp only [breaksLine, List.contains_eq_mem, List.mem_cons, List.not_mem_nil, or_false,
    decide_eq_false_iff_not]
  omega

/-- Numbers are on one line. -/
theorem onOneLine_toString (n : Nat) : OnOneLine (toString n) := by
  have digits : (toString n).toList = decimal n := String.toList_ofList
  rw [OnOneLine, digits, List.any_eq_false]
  exact fun c mem => by simp [breaksLine_of_isDigit (isDigit_of_mem_decimal mem)]

/-! ## Quotations -/

/-- A text put together of words on one line and of texts of which `given` holds. -/
inductive Quotes (given : String → Prop) : String → Prop
  | own {s : String} (line : OnOneLine s) : Quotes given s
  | quoted {s : String} (h : given s) : Quotes given s
  | append {s t : String} (first : Quotes given s) (second : Quotes given t) : Quotes given (s ++ t)

variable {given given' : String → Prop}

theorem Quotes.mono (h : Quotes given s) (imp : ∀ q, given q → given' q) : Quotes given' s := by
  induction h with
  | own line => exact .own line
  | quoted h => exact .quoted (imp _ h)
  | append _ _ first second => exact first.append second

/-- A text that quotes others breaks off a line only within one of them. -/
theorem Quotes.onOneLine (h : Quotes given s)
    (lines : ∀ q, given q → q.toList <:+: s.toList → OnOneLine q) : OnOneLine s := by
  induction h with
  | own line => exact line
  | quoted h => exact lines _ h (List.infix_refl _)
  | append _ _ first second =>
    simp only [String.toList_append] at lines
    exact onOneLine_append.2
      ⟨first fun q hq inside => lines q hq (inside.trans (List.prefix_append _ _).isInfix),
        second fun q hq inside => lines q hq (inside.trans (List.suffix_append _ _).isInfix)⟩

/-- **Where quotations break lines.** A text that quotes others is on one line exactly if each of
them is that stands in it. -/
theorem Quotes.onOneLine_iff (h : Quotes given s) :
    OnOneLine s ↔ ∀ q, given q → q.toList <:+: s.toList → OnOneLine q :=
  ⟨fun line _ _ inside => line.of_isInfix inside, h.onOneLine⟩

end Text

/-! ## Errors that quote -/

open Text PortalM

/-- Whether the error that an outcome may be quotes nothing but texts of which `given` holds. -/
def Cites {α : Type} (given : String → Prop) (outcome : Except PortalError α) : Prop :=
  ∀ e, outcome = .error e → Quotes given e.message

namespace Cites

variable {α β : Type} {given given' : String → Prop} {outcome : Except PortalError α}

theorem ok (a : α) : Cites given (.ok a : Except PortalError α) := nofun

theorem error {e : PortalError} (h : Quotes given e.message) :
    Cites given (.error e : Except PortalError α) := by
  rintro _ ⟨⟩
  exact h

theorem mono (h : Cites given outcome) (imp : ∀ q, given q → given' q) : Cites given' outcome :=
  fun e failed => (h e failed).mono imp

theorem bind {f : α → Except PortalError β} (first : Cites given outcome)
    (rest : ∀ a, outcome = .ok a → Cites given (f a)) : Cites given (outcome >>= f) := by
  intro e failed
  rcases bind_eq_error_iff.1 failed with failed | ⟨a, goes, failed⟩
  · exact first e failed
  · exact rest a goes e failed

theorem map {f : α → β} (h : Cites given outcome) : Cites given (outcome.map f) := by
  cases outcome with
  | ok a => exact ok _
  | error e => exact error (h e rfl)

end Cites

end TrainingPortal
