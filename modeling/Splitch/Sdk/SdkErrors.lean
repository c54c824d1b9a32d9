/-
# The errors of the SDK

An error of the SDK (`errors.ts`) has a code, what has gone wrong and what to do about it, and a message
made of the three.  Its constructor does not store the two texts as they come: each is trimmed, and ends in
a full stop unless it ends in a mark of its own (`sentence`).  What is read off an error is therefore the
sentence and not the text it was built of.

The message is formatted from the texts, before they are stored.  It is the same as if it were formatted
from the stored ones, since a sentence is the sentence of itself (`message_new`); so the texts need not be
kept, and a failure that is logged from an error reads like one that is logged from its parts.
-/
import Splitch.Library.TrimmedText

namespace Splitch

open TrimmedText

structure SplitchSdkError where
  code : String
  causeSummary : String
  remediation : String
  status : Option Nat
  deriving DecidableEq, Repr

def endsSentence (text : List Char) : Bool := text.getLast?.any fun c => c ∈ ['.', '!', '?']

def sentence (value : String) : String :=
  let text := trimmed value.toList
  if endsSentence text then String.ofList text else String.ofList (text ++ ['.'])

def DOCS_ORIGIN : String := "https://splitch.dev"

def formatSdkErrorMessage (code causeSummary remediation : String) : String :=
  s!"{code}: Cause: {sentence causeSummary} Remediation: {sentence remediation} " ++
    s!"Docs: {DOCS_ORIGIN}/docs/error/{code}"

namespace SplitchSdkError

/-- The constructor. -/
def new (code causeSummary remediation : String) (status : Option Nat) : SplitchSdkError where
  code := code
  causeSummary := sentence causeSummary
  remediation := sentence remediation
  status := status

def message (error : SplitchSdkError) : String :=
  formatSdkErrorMessage error.code error.causeSummary error.remediation

end SplitchSdkError

/-! ## Sentences -/

/-- **A sentence is the sentence of itself.** Trimming what is trimmed does nothing, and a full stop
that was added is one that it ends in. -/
theorem sentence_sentence (value : String) : sentence (sentence value) = sentence value := by
  unfold sentence
  dsimp only
  cases hends : endsSentence (trimmed value.toList) with
  | true =>
    have hsame : trimmed (trimmed value.toList) = trimmed value.toList :=
      trimmed_eq_self (fun _ => head_trimmed) fun _ => last_trimmed
    rw [if_pos rfl, String.toList_ofList, hsame, hends, if_pos rfl]
  | false =>
    have hsame : trimmed (trimmed value.toList ++ ['.']) = trimmed value.toList ++ ['.'] := by
      refine trimmed_eq_self (fun c hc => ?_) fun c hc => ?_
      · cases htext : trimmed value.toList with
        | nil =>
          rw [htext] at hc
          cases hc
          decide
        | cons first rest =>
          have hfirst : c ∈ (trimmed value.toList).head? := by
            rw [htext]
            rw [htext] at hc
            exact hc
          exact head_trimmed hfirst
      · rw [List.getLast?_append] at hc
        cases hc
        decide
    have hdot : endsSentence (trimmed value.toList ++ ['.']) = true := by
      rw [endsSentence, List.getLast?_append]
      rfl
    rw [if_neg Bool.false_ne_true, String.toList_ofList, hsame, hdot, if_pos rfl]

/-- **The message** of an error is that of the texts it was built of. -/
theorem message_new (code causeSummary remediation : String) (status : Option Nat) :
    (SplitchSdkError.new code causeSummary remediation status).message =
      formatSdkErrorMessage code causeSummary remediation := by
  rw [SplitchSdkError.message, SplitchSdkError.new, formatSdkErrorMessage, sentence_sentence,
    sentence_sentence, formatSdkErrorMessage]

end Splitch
