import SerializerContract.Failure

/-! Chains of causes in one line. The recursion that shows one cause behind the other comes to the joined messages
of all faults up to the first one that carries no description. -/
namespace SerializerContract

namespace Failure

/-- The faults of a failure, from the outermost one inwards. -/
def chain (failure : Failure) : List Fault := failure.fault :: failure.causes

/-- What can be told of a chain: the messages of the faults in front that describe themselves, and if these are not
all of them, that something unknown is behind them. -/
def shownTexts (chain : List Fault) : List String :=
  (chain.takeWhile Fault.isStandard).map Fault.message ++
    if chain.all Fault.isStandard then [] else [Fault.unknownText]

@[simp] theorem shownTexts_nil : shownTexts [] = [] := rfl

/-- A failure that describes itself is shown, and what caused it after it. -/
@[simp] theorem shownTexts_of_standard {fault : Fault} (h : fault.isStandard = true) (rest : List Fault) :
    shownTexts (fault :: rest) = fault.message :: shownTexts rest := by
  simp [shownTexts, h]

/-- What does not describe itself hides what caused it. -/
@[simp] theorem shownTexts_of_foreign {fault : Fault} (h : fault.isStandard = false) (rest : List Fault) :
    shownTexts (fault :: rest) = [Fault.unknownText] := by
  simp [shownTexts, h]

/-- The text of a chain is the shown texts of its faults, joined. -/
theorem describeStandard_eq (fault : Fault) (causes : List Fault) :
    describeStandard fault causes = ": ".intercalate (fault.message :: shownTexts causes) := by
  induction causes generalizing fault with
  | nil => exact String.intercalate_singleton.symm
  | cons cause rest ih =>
      rw [describeStandard]
      cases hCause : cause.isStandard with
      | true => simp [hCause, ih, String.append_assoc]
      | false => simp [hCause, String.append_assoc]

/-- A failure is described by the messages of its chain, joined from the outermost one inwards. The first fault that
carries no description is shown as something unknown, and ends the text; so does one in front of all others. A new
fault around a failure adds its message in front. -/
theorem describe_flattens (failure : Failure) :
    (failure.fault.isStandard = true →
      describeStandard failure.fault failure.causes = ": ".intercalate (shownTexts failure.chain) ∧
      failure.describe = ": ".intercalate (shownTexts failure.chain)) ∧
    (failure.fault.isStandard = false → failure.describe = "unknown exception") ∧
    ∀ outer : Fault, outer.isStandard = true →
      (failure.wrap outer).describe = outer.message ++ ": " ++ failure.describe := by
  refine ⟨fun hStandard => ?_, fun hForeign => ?_, fun outer hOuter => ?_⟩
  · have hJoined : describeStandard failure.fault failure.causes = ": ".intercalate (shownTexts failure.chain) := by
      rw [describeStandard_eq, chain, shownTexts_of_standard hStandard]
    exact ⟨hJoined, by rw [describe, if_pos hStandard, hJoined]⟩
  · simp [describe, hForeign, Fault.unknownText]
  · simp [describe, wrap, hOuter, describeStandard, String.append_assoc]

/-- Of four faults the third one carries no description, so the fourth is not shown. -/
theorem describe_flattens_to_unknown :
    let failure : Failure :=
      ⟨.standard .runtime "outer", [.finding .clone "p" "inner", .foreign, .standard .logic "hidden"]⟩
    failure.fault.isStandard = true ∧ shownTexts failure.chain = ["outer", "[p] inner", "unknown exception"] ∧
      failure.describe = "outer: [p] inner: unknown exception" := by
  intro failure
  have hShown : shownTexts failure.chain = ["outer", "[p] inner", "unknown exception"] := by decide
  refine ⟨rfl, hShown, ?_⟩
  rw [((describe_flattens failure).1 rfl).2, hShown]
  rfl

end Failure

end SerializerContract
