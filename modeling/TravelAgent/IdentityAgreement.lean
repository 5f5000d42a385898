import TravelAgent.Acceptance
import TravelAgent.DuplicateCheck

namespace TravelAgent.IdentityAgreement

open TravelAgent.Agent TravelAgent.DuplicateCheck TravelAgent.Itinerary

variable {F D : Type}

def placeSuffixes : List (List Char) :=
  ["特别行政区".toList, "维吾尔自治区".toList, "壮族自治区".toList, "回族自治区".toList, "自治区".toList,
    "省".toList, "市".toList]

/-- `_normalize_place` -/
def normalizePlace (value : String) : List Char :=
  let normalized := squeezed value
  match placeSuffixes.find? fun s => s.isSuffixOf normalized with
  | some s => normalized.take (normalized.length - s.length)
  | none => normalized

/-- An error of the validator that is no duplicate, where something does not match. -/
def mismatch (code message : String) (h : code ≠ duplicateAcrossDays) (wrong : Bool) :
    List OtherIssue :=
  if wrong then [{ code := code, severity := .error, message := message, other := h }] else []

/-- `_validate_plan_identity` -/
def validatePlanIdentity (request : TripRequest) (plan : TripPlan) : List OtherIssue :=
  mismatch "plan.city_mismatch" "行程城市与用户请求不一致" (by decide)
      (decide (normalizePlace plan.city ≠ normalizePlace request.city)) ++
    mismatch "plan.start_date_mismatch" "行程开始日期与用户请求不一致" (by decide)
      (decide (plan.startDate ≠ request.startDate)) ++
    mismatch "plan.end_date_mismatch" "行程结束日期与用户请求不一致" (by decide)
      (decide (plan.endDate ≠ request.endDate))

/-- The first check of `_validate_days`. -/
def validateDayCount (request : TripRequest) (plan : TripPlan) : List OtherIssue :=
  mismatch "days.count_mismatch" "每日行程数量与旅行天数不一致" (by decide)
    (decide (plan.days.length ≠ request.travelDays))

/-- The checks of the request come first, then those of the plan's identity and of the number
of its days. -/
def withIdentity (o : OtherChecks F D) : OtherChecks F D :=
  { o with
    first := fun inputs =>
      o.first inputs ++ validatePlanIdentity inputs.request inputs.plan ++
        validateDayCount inputs.request inputs.plan }

def identityCodes : List String :=
  ["plan.city_mismatch", "plan.start_date_mismatch", "plan.end_date_mismatch",
    "days.count_mismatch"]

section

variable {o : OtherChecks F D} {inputs : ValidationInputs F D} {budget : ExecutionBudget}

/-- Where nothing that is not allowed is found, an error of the first checks has an allowed
code. -/
theorem code_allowed (h : disallowedErrors budget (validate o inputs) = []) {i : OtherIssue}
    (hi : i ∈ o.first inputs) (herror : i.isError = true) :
    i.code ∈ budget.partialAcceptanceAllowedErrorCodes := by
  have hmem : i.toValidationIssue ∈ (validate o inputs).errors := by
    rw [TripValidationResult.errors, List.mem_filter]
    refine ⟨?_, herror⟩
    rw [validate, TripValidationResult.fromIssues]
    exact List.mem_append_left _ (List.mem_append_left _ (List.mem_map_of_mem hi))
  have hallowed := List.filter_eq_nil_iff.mp h _ hmem
  simpa using hallowed

/-- With its code not allowed, a mismatch is not there. -/
theorem no_mismatch (h : disallowedErrors budget (validate o inputs) = []) {code message : String}
    {hcode : code ≠ duplicateAcrossDays} {wrong : Bool}
    (hsub : mismatch code message hcode wrong ⊆ o.first inputs)
    (hforbidden : code ∉ budget.partialAcceptanceAllowedErrorCodes) : wrong = false := by
  cases wrong with
  | false => rfl
  | true => exact absurd (code_allowed h (hsub List.mem_cons_self) rfl) hforbidden

/-- What the validator makes sure of when it finds nothing that is not allowed. -/
theorem matches_of_clean
    (h : disallowedErrors budget (validate (withIdentity o) inputs) = [])
    (hcodes : ∀ code ∈ identityCodes, code ∉ budget.partialAcceptanceAllowedErrorCodes) :
    normalizePlace inputs.plan.city = normalizePlace inputs.request.city ∧
      inputs.plan.startDate = inputs.request.startDate ∧
      inputs.plan.endDate = inputs.request.endDate ∧
      inputs.plan.days.length = inputs.request.travelDays := by
  simp only [identityCodes, List.forall_mem_cons] at hcodes
  obtain ⟨hcity, hstart, hend, hcount, -⟩ := hcodes
  have hfirst : (withIdentity o).first inputs =
      o.first inputs ++ validatePlanIdentity inputs.request inputs.plan ++
        validateDayCount inputs.request inputs.plan := rfl
  have hidentity : validatePlanIdentity inputs.request inputs.plan ⊆
      (withIdentity o).first inputs := by
    rw [hfirst]
    exact fun i hi => List.mem_append_left _ (List.mem_append_right _ hi)
  refine ⟨?_, ?_, ?_, ?_⟩
  · have hno := no_mismatch h (fun i hi => hidentity
      (List.mem_append_left _ (List.mem_append_left _ hi))) hcity
    simpa using hno
  · have hno := no_mismatch h (fun i hi => hidentity
      (List.mem_append_left _ (List.mem_append_right _ hi))) hstart
    simpa using hno
  · have hno := no_mismatch h (fun i hi => hidentity (List.mem_append_right _ hi)) hend
    simpa using hno
  · have hno := no_mismatch h (fun i hi => hfirst ▸ List.mem_append_right _ hi) hcount
    simpa using hno

end

/-- A plan that the validator lets through passes the acceptance's own checks of city, dates
and number of days exactly when its city is spelled as in the request. -/
theorem identity_accepted_iff (o : OtherChecks F D) (s : AgentState F D)
    (inputs : ValidationInputs F D) (hrequest : inputs.request = s.request)
    (hdays : inputs.plan.days ≠ [])
    (hcodes : ∀ code ∈ identityCodes, code ∉ s.budget.partialAcceptanceAllowedErrorCodes)
    (h : disallowedErrors s.budget (validate (withIdentity o) inputs) = []) :
    let checks := coreChecks s inputs.plan (validate (withIdentity o) inputs)
    checks.planIdentity = true ∧ checks.dayCount = true ↔ inputs.plan.city = s.request.city := by
  obtain ⟨-, hstart, hend, hcount⟩ := matches_of_clean h hcodes
  rw [hrequest] at hstart hend hcount
  have hpos : 0 < s.request.travelDays := hcount ▸ List.length_pos_of_ne_nil hdays
  simp [coreChecks, hstart, hend, hcount, hpos]

def shanghaiRequest : TripRequest :=
  { city := "上海"
    startDate := "2025-06-01"
    endDate := "2025-06-01"
    travelDays := 1
    transportation := "公共交通"
    accommodation := "经济型酒店" }

def shanghaiPlan : TripPlan :=
  { city := "上海市"
    startDate := "2025-06-01"
    endDate := "2025-06-01"
    days :=
      [{ date := "2025-06-01"
         dayIndex := 0
         description := "外滩"
         transportation := "公共交通"
         accommodation := "经济型酒店" }]
    overallSuggestions := "提前预约" }

def shanghaiInputs : ValidationInputs Unit Unit :=
  ⟨shanghaiRequest, shanghaiPlan, none, none, none, none, none, none⟩

/-- Nothing else is wrong with the plan. -/
def noOtherIssues : OtherChecks Unit Unit :=
  ⟨fun _ => [], fun _ _ => [], fun _ _ _ => [], fun _ => []⟩

def shanghaiState : AgentState Unit Unit := AgentState.create shanghaiRequest {}

theorem shanghai_clean :
    disallowedErrors shanghaiState.budget (validate (withIdentity noOtherIssues) shanghaiInputs) =
      [] := by
  decide +kernel

/-- The validator takes the full name of the city for the short one; the acceptance does not. -/
theorem shanghai_rejected :
    shanghaiInputs.plan.days ≠ [] ∧
      (∀ code ∈ identityCodes,
        code ∉ shanghaiState.budget.partialAcceptanceAllowedErrorCodes) ∧
      disallowedErrors shanghaiState.budget
        (validate (withIdentity noOtherIssues) shanghaiInputs) = [] ∧
      (coreChecks shanghaiState shanghaiInputs.plan
        (validate (withIdentity noOtherIssues) shanghaiInputs)).planIdentity = false := by
  exact ⟨List.cons_ne_nil _ _, by decide, shanghai_clean, rfl⟩

theorem shanghai_accepted_iff :
    let checks := coreChecks shanghaiState shanghaiInputs.plan
      (validate (withIdentity noOtherIssues) shanghaiInputs)
    checks.planIdentity = true ∧ checks.dayCount = true ↔
      shanghaiInputs.plan.city = shanghaiState.request.city :=
  identity_accepted_iff noOtherIssues shanghaiState shanghaiInputs rfl (List.cons_ne_nil _ _)
    (by decide) shanghai_clean

end TravelAgent.IdentityAgreement
