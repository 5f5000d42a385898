import Mathlib
import TravelAgent.Itinerary

namespace TravelAgent.GuideTexts

open TravelAgent.Itinerary
open TravelAgent.TaskStore (pySpace)

/-- `_CITY_SUFFIXES` -/
def citySuffixes : List (List Char) := ["市".toList, "市区".toList]

/-- `unicodedata.normalize("NFKC", …)`: the suffixes of a city take no part in a composition,
and no 市 comes out of blanks and of characters that stand in a normalised text. -/
structure Nfkc where
  normalize : List Char → List Char
  nil : normalize [] = []
  suffix : ∀ x, ∀ s ∈ citySuffixes, normalize (x ++ s) = normalize x ++ s
  again : ∀ x y, (∀ c ∈ y, c = ' ' ∨ c ∈ normalize x) → (normalize y).count '市' ≤ y.count '市'

/-- `_TAG_RE.sub("", …)`, outside or inside of a tag. -/
def dropTags : Bool → List Char → List Char
  | _, [] => []
  | true, c :: cs => dropTags (decide (c ≠ '>')) cs
  | false, c :: cs => if c = '<' ∧ '>' ∈ cs then dropTags true cs else c :: dropTags false cs

/-- `_INVISIBLE_RE` -/
def invisible (c : Char) : Bool :=
  let n := c.toNat
  n ≤ 0x1F || (0x7F ≤ n && n ≤ 0x9F) || (0x200B ≤ n && n ≤ 0x200F) || (0x202A ≤ n && n ≤ 0x202E) ||
    n == 0x2060 || n == 0xFEFF

/-- `" ".join(text.split())`: nothing is written yet, or a blank may be owed to the next
word. -/
def spaced : Option Bool → List Char → List Char
  | _, [] => []
  | owed, c :: cs =>
    if pySpace c then spaced (owed.map fun _ => true) cs
    else if owed = some true then ' ' :: c :: spaced (some false) cs
    else c :: spaced (some false) cs

section

variable (nfkc : Nfkc)

/-- What `_clean` makes of a text before it is cut. -/
def scrub (text : List Char) : List Char :=
  (dropTags false (nfkc.normalize text)).filter fun c => !invisible c

/-- `_clean` -/
def clean (limit : Nat) (text : List Char) : List Char := (spaced none (scrub nfkc text)).take limit

def cleanText (value : String) (limit : Nat) : String :=
  String.ofList (clean nfkc limit value.toList)

def dropSuffix (result : List Char) : List Char :=
  match citySuffixes.find? fun s => s.isSuffixOf result && decide (s.length < result.length) with
  | some s => result.take (result.length - s.length)
  | none => result

/-- `_city` -/
def city (value : String) : String := String.ofList (dropSuffix (clean nfkc 128 value.toList))

/-- `_TRANSPORT_ALIASES` -/
def transportAliases : List (String × String) :=
  [("公交", "公共交通"), ("地铁", "公共交通"), ("驾车", "自驾"), ("驾驶", "自驾")]

/-- `_transport` -/
def transport (value : String) : String :=
  let result := cleanText nfkc value 64
  (transportAliases.lookup result).getD result

/-- `_unique` -/
def unique (values : List String) (limit : Nat) : List String :=
  ((values.map fun v => cleanText nfkc v limit).filter fun v => decide (v ≠ "")).eraseDups

/-- `_join` -/
def join (values : List String) : String := if values = [] then "无" else "、".intercalate values

/-- The names that fit, from a length on. -/
def fitting (limit : Nat) : Nat → Bool → List String → List String
  | _, _, [] => []
  | length, first, name :: names =>
    let separator := if first then 0 else 1
    if limit < length + separator + name.length then []
    else name :: fitting limit (length + separator + name.length) false names

/-- `_fallback_summary` -/
def fallbackSummary (names : List String) (limit : Nat) : String :=
  let selected := fitting limit 3 true names
  if selected = [] then "暂无景点安排。" else "游览" ++ "、".intercalate selected ++ "。"

def dayPrefix (index : Nat) : String := "第" ++ toString index ++ "天："

/-- The summary of a day, or one made of the names of its attractions. -/
def daySummary (names : List String) (index : Nat) (day : DayPlan) : String :=
  let limit := 500 - (dayPrefix index).length
  let summary := cleanText nfkc day.description limit
  dayPrefix index ++ if summary = "" then fallbackSummary names limit else summary

structure SharedTripRequestSnapshot where
  city : String
  travelDays : Nat
  transportation : String
  accommodation : String
  preferences : List String
deriving DecidableEq

structure SharedGuideSnapshot where
  request : SharedTripRequestSnapshot
  tripPlan : TripPlan
deriving DecidableEq

structure BuiltRetrievalText where
  text : String
  cityNormalized : String
  transportationNormalized : String

/-- `_truncate` -/
def truncate (text : String) : String := String.ofList (text.toList.take 12000)

/-- `build_document`, without the digest of the text. -/
def buildDocument (snapshot : SharedGuideSnapshot) : BuiltRetrievalText :=
  let request := snapshot.request
  let plan := snapshot.tripPlan
  let town := city nfkc (if request.city = "" then plan.city else request.city)
  let transportation := transport nfkc request.transportation
  let preferences :=
    ((unique nfkc request.preferences 64).mergeSort fun x y => decide (x ≤ y)).take 20
  let days := (plan.days.take 30).zipIdx.map fun d =>
    ((unique nfkc (d.1.attractions.map (·.name)) 100).take 60, d)
  let attractions := (unique nfkc (days.flatMap (·.1)) 100).take 60
  let summaries := days.map fun d => daySummary nfkc d.1 (d.2.2 + 1) d.2.1
  let count := if plan.days = [] then request.travelDays else plan.days.length
  let lines :=
    ["文档类型：公开旅行攻略", "目的地：" ++ town, "旅行天数：" ++ toString count ++ "天",
      "主要交通：" ++ transportation, "住宿偏好：" ++ cleanText nfkc request.accommodation 128,
      "旅行偏好：" ++ join preferences, "主要景点：" ++ join attractions, "", "每日摘要："] ++
      summaries ++ ["", "总体建议：", cleanText nfkc plan.overallSuggestions 1200]
  { text := truncate ("\n".intercalate lines)
    cityNormalized := town
    transportationNormalized := transportation }

/-- `build_query` -/
def buildQuery (request : TripRequest) (selectedAttractions : List String) : String :=
  let preferences :=
    ((unique nfkc request.preferences 64).mergeSort fun x y => decide (x ≤ y)).take 20
  let selected := (unique nfkc selectedAttractions 100).take 60
  let extra := cleanText nfkc (request.freeTextInput.getD "") 1000
  let lines :=
    ["文档类型：旅行攻略检索请求", "目的地：" ++ city nfkc request.city,
      "旅行天数：" ++ toString request.travelDays ++ "天",
      "主要交通：" ++ transport nfkc request.transportation,
      "住宿偏好：" ++ cleanText nfkc request.accommodation 128, "旅行偏好：" ++ join preferences] ++
      (if selected = [] then [] else ["用户明确选择景点：" ++ join selected]) ++
      (if extra = "" then [] else ["额外要求：" ++ extra])
  truncate ("\n".intercalate lines)

end

end TravelAgent.GuideTexts
