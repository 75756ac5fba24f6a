import TrainingPortal.Proofs.Messages.Parameters
import TrainingPortal.Proofs.Messages.Portal

/-!
# Errors on one line

The words of an error never break a line, but an error may quote what does: an item, a name, a path,
a piece of a file or the body of an answer. `PortalError.breaks_with_quotations` says for everything
that fails with such an error which texts these are.
-/

namespace TrainingPortal

open Http Text PortalM

namespace PortalError

open ParameterSet

/-- Whether an error is on one line exactly if each given text is that stands in it. -/
def BreaksWith (given : String → Prop) (e : PortalError) : Prop :=
  OnOneLine e.message ↔
    ∀ text, given text → text.toList <:+: e.message.toList → OnOneLine text

/-- **Errors break a line only where they quote.**

* What credentials are refused with, and what a login fails with, is on one line.
* What another step of a conversation fails with is on one line unless the workshop or session that
  the step is given, or an answer with a status other than 200, is quoted and is not.
* What an operation on parameters fails with, or their assembly, is on one line unless an item, a
  path or a piece of a dotenv file is quoted and is not. -/
theorem breaks_with_quotations (c : Credentials) (n : Network) (steps : List Conversation.Step)
    (changes : List ParameterSet.Step) (ps : ParameterSet) (fs : Files) (vars : Variables)
    (literals files envFiles : List String) :
    (∀ e, c.validate = .error e → OnOneLine e.message) ∧
    (∀ base e, (Login.start base c).outcome n = .error e → OnOneLine e.message) ∧
    List.Forall₂ (fun s outcome => ∀ e, outcome = .error (.portal e) →
        e.BreaksWith fun text => s.name? = some text ∨ n.Refuses text)
      steps (Conversation.hold steps n).value.1 ∧
    List.Forall₂ (fun change outcome => ∀ e, outcome = .error e → e.BreaksWith change.Shows)
      changes (performAll changes ps).1 ∧
    ∀ e, (assemble fs vars literals files envFiles).value = .error e →
      e.BreaksWith fun text => ∃ source ∈ sources literals files envFiles, source.Shows fs text := by
  refine ⟨fun _ => c.onOneLine_validate, fun _ _ => Login.onOneLine_start, ?_, ?_,
    fun e failed => ?_⟩
  · exact (Conversation.quotes_of_performAll steps {} n).imp
      fun _ _ quotes e failed => (quotes e failed).onOneLine_iff
  · exact (cites_performAll changes ps).imp fun _ _ cites e failed => (cites e failed).onOneLine_iff
  · exact (cites_assemble fs vars literals files envFiles e failed).onOneLine_iff

/-- A blank address is refused on one line. An item without an equals sign is all that is quoted of
some literals, and that is on one line, too. -/
theorem breaks_with_quotations_literal :
    (∃ e, (⟨" \n", "c", "s", "u", "p", []⟩ : Credentials).validate = .error e ∧
      OnOneLine e.message) ∧
    ∃ e, (assemble {} [] ["TIER=gold", "REGION"] [] []).value = .error e ∧
      e.message = "invalid parameter format REGION" ∧ OnOneLine e.message := by
  obtain ⟨valid, -, -, -, assembled⟩ := breaks_with_quotations ⟨" \n", "c", "s", "u", "p", []⟩
    ⟨true, []⟩ [] [] [] {} [] ["TIER=gold", "REGION"] [] []
  have refused : (⟨" \n", "c", "s", "u", "p", []⟩ : Credentials).validate =
      .error .invalidEndpoint := by decide +kernel
  have failed : (assemble {} [] ["TIER=gold", "REGION"] [] []).value =
      .error (.precondition "invalid parameter format REGION") := by decide +kernel
  refine ⟨⟨_, refused, valid _ refused⟩, _, failed, rfl, (assembled _ failed).2 ?_⟩
  rintro text ⟨source, mem, shows⟩ -
  simp only [sources, List.map_cons, List.map_nil, List.append_nil, List.mem_cons, List.not_mem_nil,
    or_false] at mem
  rcases mem with rfl | rfl
  · cases shows
    decide
  · cases shows
    decide

/-- An item with a line break and an answer with two lines are quoted as they are. -/
theorem errors_on_two_lines :
    (∃ e, (assemble {} [] ["a\nb"] [] []).value = .error e ∧ ¬ OnOneLine e.message) ∧
    let l : Login := ⟨"http://p", { accessToken := "t" }, "c", "s"⟩
    ∃ e, l.listEnvironments.outcome ⟨true, [.answer 500 (Utf8.bytes "Server\nError")]⟩ = .error e ∧
      ¬ OnOneLine e.message := by
  refine ⟨⟨.precondition "invalid parameter format a\nb", by decide +kernel, by decide⟩,
    .protocol "request for catalog from training portal" 500 "Server\nError", by decide +kernel,
    by decide⟩

end PortalError

end TrainingPortal
