import Mathlib.Data.List.Forall2
import TrainingPortal.Proofs.Assembly
import TrainingPortal.Proofs.Dotenv.Excerpts
import TrainingPortal.Proofs.Messages.Quotations

/-!
# What parameters fail with

An operation on parameters fails with the fault of one of its sources, which quotes nothing but what
the source can be shown with (`Source.Shows`): the item or path that it is given by, the path in an
item, and excerpts of a dotenv file. This holds of every operation in a sequence
(`ParameterSet.cites_performAll`) and of assembly (`ParameterSet.cites_assemble`).
-/

namespace TrainingPortal

open Text

/-! ## Sources -/

theorem onOneLine_fileError (e : FileError) : OnOneLine e.message := by
  cases e <;> decide

namespace Source

variable {fs : Files} {vars : Variables} {source : Source} {sources : List Source}
  {pairs : List (String × String)} {outcome : Except PortalError Unit} {message : String}

/-- What a source can be shown with: the item or the path that it is given by, the path in an item,
and what stands in a dotenv file. -/
inductive Shows (fs : Files) : Source → String → Prop
  | literal (item : String) : Shows fs (.literal item) item
  | item (item : String) : Shows fs (.file item) item
  | file {item name path : String} (splits : Splits item name path) : Shows fs (.file item) path
  | envFile (path : String) : Shows fs (.envFile path) path
  | excerpt {path text : String} {content : List UInt8} (reads : fs.read path = .ok content)
    (excerpt : Dotenv.Excerpt content text) : Shows fs (.envFile path) text

theorem quotes_of_faults (h : Faults fs vars source message) :
    Quotes (Shows fs source) message := by
  cases h with
  | literal => exact .append (.own (by decide)) (.quoted (.literal _))
  | item => exact .append (.own (by decide)) (.quoted (.item _))
  | file splits =>
    exact .append (.append (.append (.own (by decide)) (.quoted (.file splits)))
      (.own (by decide))) (.own (onOneLine_fileError _))
  | envFile interrupted =>
    refine .append (.append (.append (.own (by decide)) (.quoted (.envFile _)))
      (.own (by decide))) ?_
    rcases Dotenv.excerpt_of_interrupted (Dotenv.read_eq_some_iff.1 interrupted) with
      ⟨cause, rfl⟩ | ⟨content, text, index, reads, rfl, excerpt⟩
    · exact .own (onOneLine_fileError cause)
    · exact .append (.append (.append (.own (by decide)) (.quoted (.excerpt reads excerpt)))
        (.own (by decide))) (.own (onOneLine_toString index))

/-- Sources that are applied in order fail with an error that shows one of them. -/
theorem cites_of_contribute (h : Contribute fs vars sources outcome pairs) :
    Cites (fun text => ∃ source ∈ sources, Shows fs source text) outcome := by
  induction h with
  | nil => exact .ok ()
  | gives _ _ ih =>
    exact ih.mono fun _ ⟨source, mem, shows⟩ => ⟨source, List.mem_cons_of_mem _ mem, shows⟩
  | faults faults _ _ =>
    exact .error ((quotes_of_faults faults).mono fun _ shows => ⟨_, List.mem_cons_self, shows⟩)

end Source

/-! ## Operations and assembly -/

namespace ParameterSet

/-- The sources of an operation. -/
def Operation.sources : Operation → List Source
  | set _ _ => []
  | literals items => items.map .literal
  | files items => items.map .file
  | envFiles paths => paths.map .envFile

/-- What the operation of a step can be shown with. -/
def Step.Shows (step : Step) (text : String) : Prop :=
  ∃ source ∈ step.operation.sources, source.Shows step.files text

theorem Operation.cites {fs : Files} {vars : Variables} {operation : Operation}
    {outcome : Except PortalError Unit} {pairs : List (String × String)}
    (h : operation.Contributes fs vars outcome pairs) :
    Cites (fun text => ∃ source ∈ operation.sources, source.Shows fs text) outcome := by
  cases h with
  | set name value => exact .ok ()
  | literals h | files h | envFiles h => exact Source.cites_of_contribute h

theorem cites_performAll (steps : List Step) (ps : ParameterSet) :
    List.Forall₂ (fun step outcome => Cites step.Shows outcome) steps (performAll steps ps).1 := by
  obtain ⟨contributions, contributed⟩ := exists_contributions steps
  rw [performAll_of_contributions contributed, List.forall₂_map_right_iff]
  exact contributed.imp fun _ _ contributes => Operation.cites contributes

theorem cites_assemble (fs : Files) (vars : Variables) (literals files envFiles : List String) :
    Cites (fun text => ∃ source ∈ sources literals files envFiles, source.Shows fs text)
      (assemble fs vars literals files envFiles).value := by
  obtain ⟨outcome, pairs, contributed⟩ :=
    Source.exists_contribute fs vars (sources literals files envFiles)
  rw [value_assemble, Source.value_forM_of_contribute contributed]
  exact (Source.cites_of_contribute contributed).map

end ParameterSet

end TrainingPortal
