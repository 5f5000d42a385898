import Mathlib
import TravelAgent.JsonExtension
import TravelAgent.TaskStore

namespace TravelAgent.PlannerReplies

open TravelAgent.AmapValues (Fields Value)
open TravelAgent.Json (blank skip)
open TravelAgent.JsonReader
open TravelAgent.PyFloats (Str)
open TravelAgent.TaskStore (pySpace)
open TravelAgent.Texts (prefix_append_cons trim)

inductive ReplyError
  | noObject
  | notAnObject
  | json (e : LoadError)
deriving DecidableEq, Repr

def cutFront (m s : List Char) : List Char := trim pySpace (s.drop m.length)

def cutBack (m s : List Char) : List Char := trim pySpace (s.take (s.length - m.length))

/-- A text without the fence that opens a Markdown block. -/
def withoutOpening (cleaned : List Char) : List Char :=
  if "```json".toList <+: cleaned then cutFront "```json".toList cleaned
  else if "```".toList <+: cleaned then cutFront "```".toList cleaned
  else cleaned

def withoutFences (response : List Char) : List Char :=
  let cleaned := withoutOpening (trim pySpace response)
  if "```".toList <:+ cleaned then cutBack "```".toList cleaned else cleaned

/-- `JSONDecoder().raw_decode`, which leaves what follows the value. -/
def rawDecode (limits : Limits) (cs : List Char) : Except LoadError (Value × List Char) :=
  value limits.digits (2 * cs.length + 1) limits.nesting cs

/-- `_extract_json_object` -/
def extractJsonObject (limits : Limits) (response : List Char) : Except ReplyError Fields :=
  let object := (withoutFences response).dropWhile (· ≠ '{')
  if object = [] then .error .noObject
  else
    match rawDecode limits object with
    | .error e => .error (.json e)
    | .ok (.dict d, _) => .ok d
    | .ok _ => .error .notAnObject

/-- What `_parse_trip_plan_response` raises. -/
inductive ParseError
  -- a `ValueError` about the text
  | syntaxFailed (e : ReplyError)
  -- a `ValueError` about the fields, with the keys that there are
  | structureFailed (keys : List Str)
  -- a `RecursionError` is no `ValueError`
  | recursion
deriving DecidableEq, Repr

/-- `_parse_trip_plan_response`, with the validation of a plan. -/
def parseTripPlanResponse {Plan : Type} (limits : Limits) (validate : Fields → Option Plan)
    (response : List Char) : Except ParseError Plan :=
  match extractJsonObject limits response with
  | .error (.json .recursion) => .error .recursion
  | .error e => .error (.syntaxFailed e)
  | .ok d =>
    match validate d with
    | none => .error (.structureFailed ((d.map Prod.fst).mergeSort fun a b => decide ¬b < a))
    | some plan => .ok plan

section Around

variable {t s m : List Char}

/-- A text with another one in it, and no brace before that. -/
def Around (t s : List Char) : Prop := ∃ a b, s = a ++ t ++ b ∧ '{' ∉ a

theorem dropWhile_append_solid {p : Char → Bool} (a b : List Char)
    (h : b.head?.any (fun c => !p c) = true) : (a ++ b).dropWhile p = a.dropWhile p ++ b := by
  have hb : b.dropWhile p = b := Texts.dropWhile_of_head (by
    cases b with
    | nil => cases h
    | cons c b => exact h)
  rw [List.dropWhile_append, hb]
  split_ifs with hempty
  · rw [List.isEmpty_iff.mp hempty, List.nil_append]
  · rfl

theorem trim_around {p : Char → Bool} (hhead : t.head?.any (fun c => !p c) = true)
    (hlast : t.getLast?.any (fun c => !p c) = true) (h : Around t s) : Around t (trim p s) := by
  obtain ⟨a, b, rfl, ha⟩ := h
  refine ⟨a.dropWhile p, (b.reverse.dropWhile p).reverse, ?_, fun hmem => ha ?_⟩
  · have hfront : (t ++ b).head?.any (fun c => !p c) = true := by
      cases t with
      | nil => cases hhead
      | cons c t => exact hhead
    have hback : (t.reverse ++ (a.dropWhile p).reverse).head?.any (fun c => !p c) = true := by
      rw [List.head?_append, List.head?_reverse]
      cases hc : t.getLast? with
      | none =>
        rw [hc] at hlast
        cases hlast
      | some c =>
        rw [hc] at hlast
        exact hlast
    rw [trim, List.append_assoc, dropWhile_append_solid a _ hfront, List.reverse_append,
      List.reverse_append, List.append_assoc, dropWhile_append_solid _ _ hback]
    simp only [List.reverse_append, List.reverse_reverse, List.append_assoc]
  · exact List.dropWhile_subset _ hmem

theorem cutFront_around (ht : t.head? = some '{') (hlast : t.getLast? = some '}')
    (hm : '{' ∉ m) (h : Around t s) (hs : m <+: s) : Around t (cutFront m s) := by
  obtain ⟨a, b, rfl, ha⟩ := h
  obtain ⟨t', rfl⟩ := List.head?_eq_some_iff.mp ht
  have hma : m <+: a := by
    rw [List.append_assoc, List.cons_append, prefix_append_cons hm] at hs
    exact hs
  refine trim_around (by rfl) (by rw [hlast]; rfl) ⟨a.drop m.length, b, ?_, fun hmem => ha ?_⟩
  · rw [List.append_assoc, List.drop_append_of_le_length hma.length_le, List.append_assoc]
  · exact List.mem_of_mem_drop hmem

theorem cutBack_around (ht : t.head? = some '{') (hlast : t.getLast? = some '}')
    (hm : '}' ∉ m) (h : Around t s) (hs : m <:+ s) : Around t (cutBack m s) := by
  obtain ⟨a, b, rfl, ha⟩ := h
  obtain ⟨t', rfl⟩ := List.getLast?_eq_some_iff.mp hlast
  have hmb : m <:+ b := by
    rw [← List.reverse_prefix] at hs ⊢
    simp only [List.reverse_append, List.reverse_cons, List.nil_append,
      List.cons_append, List.append_assoc] at hs
    rwa [prefix_append_cons (by rwa [List.mem_reverse])] at hs
  have hle := hmb.length_le
  refine trim_around (by rw [ht]; rfl) (by rw [hlast]; rfl) ⟨a, b.take (b.length - m.length), ?_, ha⟩
  have hlength : (a ++ (t' ++ ['}']) ++ b).length - m.length =
      (a ++ (t' ++ ['}'])).length + (b.length - m.length) := by
    rw [List.length_append]
    omega
  rw [hlength, List.take_length_add_append]

theorem withoutFences_around (ht : t.head? = some '{') (hlast : t.getLast? = some '}')
    (h : Around t s) : Around t (withoutFences s) := by
  have htrim : Around t (trim pySpace s) := trim_around (by rw [ht]; rfl) (by rw [hlast]; rfl) h
  have hopened : Around t (withoutOpening (trim pySpace s)) := by
    rw [withoutOpening]
    split_ifs with hjson hplain
    · exact cutFront_around ht hlast (by decide) htrim hjson
    · exact cutFront_around ht hlast (by decide) htrim hplain
    · exact htrim
  rw [withoutFences]
  split_ifs with hclosing
  · exact cutBack_around ht hlast (by decide) hopened hclosing
  · exact hopened

end Around

section Extraction

variable {limits : Limits} {t : List Char} {d : Fields}

theorem rawDecode_append (ht : t.head? = some '{') (h : loads limits t = .ok (.dict d))
    (b : List Char) : ∃ rest, rawDecode limits (t ++ b) = .ok (.dict d, rest) := by
  have hskip : skip t = t := by
    obtain ⟨t', rfl⟩ := List.head?_eq_some_iff.mp ht
    rfl
  rw [loads, hskip] at h
  obtain ⟨⟨v, rest⟩, hvalue, h⟩ := bind_ok h
  split_ifs at h
  obtain rfl := Except.ok.inj h
  refine ⟨rest ++ b, (extension _ _ b).value _ ?_ _ _ _ _ hvalue (.inr ht)⟩
  rw [List.length_append]
  omega

/-- An object is found in whatever is written around it, if no brace comes first: prose, the
fences of a Markdown block, or more objects behind it. -/
theorem extract_embedded (h : loads limits t = .ok (.dict d)) (ht : t.head? = some '{')
    (hlast : t.getLast? = some '}') {a : List Char} (ha : '{' ∉ a) (b : List Char) :
    extractJsonObject limits (a ++ t ++ b) = .ok d := by
  obtain ⟨a', b', hcleaned, ha'⟩ := withoutFences_around ht hlast ⟨a, b, rfl, ha⟩
  obtain ⟨rest, hdecode⟩ := rawDecode_append ht h b'
  obtain ⟨t', rfl⟩ := List.head?_eq_some_iff.mp ht
  have hobject : (withoutFences (a ++ '{' :: t' ++ b)).dropWhile (· ≠ '{') = '{' :: t' ++ b' := by
    rw [hcleaned, List.append_assoc, List.dropWhile_append_of_pos]
    · rfl
    · rintro c hc
      refine decide_eq_true ?_
      rintro rfl
      exact ha' hc
  rw [extractJsonObject, hobject, List.cons_append, if_neg (List.cons_ne_nil _ _),
    ← List.cons_append, hdecode]

/-- A fenced object with prose before it and another object behind. -/
theorem fencedPlan_extracted :
    extractJsonObject ⟨4300, 9⟩ ("Here it is:\n```json\n".toList ++
      ['{', '"', 'a', '"', ':', '[', '{', '}', ']', '}'] ++ "\n``` or \x7b\x7d".toList) =
      .ok [([97], .list [.dict []])] := by
  have hload : loads ⟨4300, 9⟩ ['{', '"', 'a', '"', ':', '[', '{', '}', ']', '}'] =
      .ok (.dict [([97], .list [.dict []])]) := rfl
  exact extract_embedded hload rfl rfl (by decide) _

end Extraction

end TravelAgent.PlannerReplies
