import TravelAgent.AgentState

namespace TravelAgent.Agent

open TravelAgent.Itinerary

variable {F D : Type}

def CoreChecks.all (c : CoreChecks) : Bool :=
  c.planIdentity && c.dayCount && c.minimumAttractionsPerDay && c.routeAvailability &&
    c.scheduleOvertime && c.commuteLimit && c.executionConstraints && c.validationAllowlist

def TripValidationResult.errors (v : TripValidationResult) : List ValidationIssue :=
  v.issues.filter ValidationIssue.isError

def TripValidationResult.warnings (v : TripValidationResult) : List ValidationIssue :=
  v.issues.filter ValidationIssue.isWarning

def disallowedErrors (budget : ExecutionBudget) (v : TripValidationResult) : List ValidationIssue :=
  v.errors.filter fun i => !budget.partialAcceptanceAllowedErrorCodes.contains i.code

/-- The checks of a plan and of the reports about it. -/
def coreChecks (s : AgentState F D) (plan : TripPlan) (v : TripValidationResult) : CoreChecks :=
  let budget := s.budget
  { planIdentity := plan.city == s.request.city && plan.startDate == s.request.startDate &&
      plan.endDate == s.request.endDate
    dayCount := plan.days.length == s.request.travelDays && decide (0 < plan.days.length)
    minimumAttractionsPerDay := plan.days.all fun day =>
      decide (budget.partialAcceptanceMinAttractionsPerDay ≤ day.attractions.length)
    routeAvailability := s.routeQualityReport.any fun r =>
      decide (r.unavailableLegs ≤ budget.partialAcceptanceMaxUnavailableRouteLegs)
    scheduleOvertime := s.scheduleQualityReport.any fun r =>
      decide (r.totalOvertimeMinutes ≤ budget.partialAcceptanceMaxScheduleOvertimeMinutes)
    commuteLimit := s.commuteReport.any fun r =>
      decide (r.excessiveSegmentCount ≤ budget.partialAcceptanceMaxExcessiveCommuteSegments)
    executionConstraints := s.constraintReport.any fun r =>
      decide (r.errorCount ≤ budget.partialAcceptanceMaxConstraintErrors)
    validationAllowlist :=
      decide (v.errors.length ≤ budget.partialAcceptanceMaxValidationErrors) &&
        (disallowedErrors budget v).isEmpty }

def codeLists (issues : List ValidationIssue) : String :=
  ", ".intercalate ((issues.map (·.code)).eraseDups.mergeSort fun x y => decide (x ≤ y))

def blockingReasons (budget : ExecutionBudget) (v : TripValidationResult) (c : CoreChecks) :
    List String :=
  let codes := codeLists (disallowedErrors budget v)
  let note (ok : Bool) (reason : String) : List String := if ok then [] else [reason]
  note c.planIdentity "城市或起止日期与用户请求不一致" ++
  note c.dayCount "行程天数不完整" ++
  note c.minimumAttractionsPerDay
    ("至少一天少于 " ++ toString budget.partialAcceptanceMinAttractionsPerDay ++ " 个景点") ++
  note c.routeAvailability "不可用路线分段超过允许上限" ++
  note c.scheduleOvertime "日程超时超过允许上限" ++
  note c.commuteLimit "过长通勤分段超过允许上限" ++
  note c.executionConstraints "仍存在阻断执行的约束错误" ++
  note c.validationAllowlist
    ("存在不可降级接受的校验错误：" ++ if codes.isEmpty then "错误数量超过上限" else codes)

/-- The mean of five scores, as doubles rounded to two places. -/
abbrev MeanScore := ℚ → ℚ → ℚ → ℚ → ℚ → ℚ

def qualityScore (mean : MeanScore) (s : AgentState F D) (plan : TripPlan)
    (v : TripValidationResult) : ℚ :=
  let covered := plan.days.countP fun day =>
    decide (s.budget.partialAcceptanceMinAttractionsPerDay ≤ day.attractions.length)
  mean ((s.routeQualityReport.map (·.qualityScore)).getD 0)
    ((s.scheduleQualityReport.map (·.qualityScore)).getD 0)
    ((s.constraintReport.map (·.qualityScore)).getD 0)
    (max 0 (100 - v.errors.length * 12 - v.warnings.length * 2))
    (100 * covered / max 1 plan.days.length)

/-- `PartialAcceptancePolicy.evaluate` -/
def evaluateAcceptance (mean : MeanScore) (s : AgentState F D) (v : TripValidationResult) :
    PartialAcceptanceReport :=
  match s.tripPlan with
  | none => { reason := "尚未生成结构化行程", blockingReasons := ["缺少旅行计划"] }
  | some plan =>
    let checks := coreChecks s plan v
    let score := qualityScore mean s plan v
    let unresolved := (v.issues.map (·.code)).eraseDups
    let messages := ((v.errors ++ v.warnings).map (·.message)).eraseDups
    if v.valid then
      { accepted := true
        qualityLevel := if 90 ≤ score ∧ v.warnings.isEmpty then .excellent else .acceptable
        qualityScore := score
        reason := "行程已通过完整校验"
        coreChecks := some checks
        warnings := messages
        unresolvedIssueCodes := unresolved }
    else if s.budget.partialAcceptanceEnabled && checks.all &&
        decide (s.budget.partialAcceptanceMinScore ≤ score) then
      { accepted := true
        partially := true
        qualityLevel := .acceptable
        qualityScore := score
        reason := "核心可执行性约束已满足，仅保留允许降级的非关键问题"
        coreChecks := some checks
        warnings := messages
        unresolvedIssueCodes := unresolved }
    else
      { qualityLevel := if checks.planIdentity && checks.dayCount then .degraded else .unusable
        qualityScore := score
        reason := "当前结果尚未达到最低可接受标准"
        coreChecks := some checks
        blockingReasons := blockingReasons s.budget v checks
        warnings := messages
        unresolvedIssueCodes := unresolved }

end TravelAgent.Agent
