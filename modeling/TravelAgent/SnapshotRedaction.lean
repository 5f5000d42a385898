import Mathlib
import TravelAgent.AmapValues

namespace TravelAgent.SnapshotRedaction

open TravelAgent.AmapValues
open TravelAgent.PyFloats (Str code)

/-- `_PRIVATE_SNAPSHOT_KEYS` -/
def privateSnapshotKeys : List String :=
  ["author_user_id", "content_hash", "embedding_dimension", "embedding_model", "free_text_input",
    "index_status", "index_version", "indexed_at", "last_index_error", "publication_status",
    "retrieval_template_version", "retrieval_text", "source_session_id", "source_version_id",
    "source_version_number"]

/-- `_is_private_snapshot_key` -/
def isPrivateSnapshotKey (key : Str) : Bool :=
  let normalized := lower key
  (privateSnapshotKeys.map code).contains normalized || normalized == code "poi_id" ||
    (code "_source_id").isSuffixOf normalized || (code "rag_").isPrefixOf normalized ||
    (code "retrieval_").isPrefixOf normalized || (code "_hash").isSuffixOf normalized

mutual

/-- `_redact_snapshot` -/
def redactSnapshot : Value → Value
  | .dict fields => .dict (redactFields fields)
  | .list items => .list (redactItems items)
  | .null => .null
  | .bool b => .bool b
  | .int n => .int n
  | .float x => .float x
  | .str s => .str s

def redactItems : List Value → List Value
  | [] => []
  | v :: vs => redactSnapshot v :: redactItems vs

def redactFields : List (Str × Value) → List (Str × Value)
  | [] => []
  | (key, v) :: fields =>
    if isPrivateSnapshotKey key then redactFields fields
    else (key, redactSnapshot v) :: redactFields fields

end

/-- A step from a value into one of its parts. -/
inductive Step
  | key (k : Str)
  | index (i : ℕ)
deriving DecidableEq, Repr

def child : Value → Step → Option Value
  | .dict fields, .key k => (fields.find? fun f => f.1 = k).map Prod.snd
  | .list items, .index i => items[i]?
  | _, _ => none

/-- The part of a value at the end of a path. -/
def follow (v : Value) : List Step → Option Value
  | [] => some v
  | s :: path => (child v s).bind fun w => follow w path

/-- A path that passes no private key. -/
def Step.shown : Step → Bool
  | .key k => !isPrivateSnapshotKey k
  | .index _ => true

theorem redactItems_eq (items : List Value) : redactItems items = items.map redactSnapshot := by
  induction items with
  | nil => rfl
  | cons v items ih => rw [redactItems, ih, List.map_cons]

theorem find_redactFields (fields : List (Str × Value)) (k : Str) :
    ((redactFields fields).find? fun f => f.1 = k).map Prod.snd =
      if isPrivateSnapshotKey k then none
      else ((fields.find? fun f => f.1 = k).map Prod.snd).map redactSnapshot := by
  induction fields with
  | nil => split_ifs <;> rfl
  | cons f fields ih =>
    obtain ⟨key, v⟩ := f
    rw [redactFields]
    by_cases hkey : key = k
    · subst hkey
      split_ifs with hprivate
      · rw [ih, if_pos hprivate]
      · simp
    · split_ifs with hprivate hk hk
      · rw [ih, if_pos hk]
      · rw [ih, if_neg hk, List.find?_cons_of_neg (by simpa using hkey)]
      · rw [List.find?_cons_of_neg (by simpa using hkey), ih, if_pos hk]
      · rw [List.find?_cons_of_neg (by simpa using hkey), ih, if_neg hk,
          List.find?_cons_of_neg (by simpa using hkey)]

theorem child_redact (v : Value) (s : Step) :
    child (redactSnapshot v) s =
      if s.shown then (child v s).map redactSnapshot else none := by
  cases v with
  | dict fields =>
    cases s with
    | key k =>
      rw [redactSnapshot, child, find_redactFields, child, Step.shown]
      cases isPrivateSnapshotKey k <;> rfl
    | index i => rfl
  | list items =>
    cases s with
    | key k => simp [redactSnapshot, child]
    | index i =>
      rw [redactSnapshot, child, child, Step.shown, if_pos rfl, redactItems_eq, List.getElem?_map]
  | _ => cases s <;> simp [redactSnapshot, child]

/-- A published snapshot shows at each path what the snapshot has there, with the private keys
below gone, and nothing behind a private key at any depth. -/
theorem follow_redact (v : Value) (path : List Step) :
    follow (redactSnapshot v) path =
      if path.all Step.shown then (follow v path).map redactSnapshot else none := by
  induction path generalizing v with
  | nil => rfl
  | cons s path ih =>
    rw [follow, child_redact, List.all_cons]
    cases hs : s.shown with
    | false => rfl
    | true =>
      rw [if_pos rfl, follow, Bool.true_and]
      cases hchild : child v s with
      | none => split_ifs <;> rfl
      | some w => exact ih w

end TravelAgent.SnapshotRedaction
