import TravelAgent.Base64
import TravelAgent.IsoTime
import TravelAgent.Json
import TravelAgent.ShareReads
import TravelAgent.Texts

namespace TravelAgent.ShareCursors

open TravelAgent.ShareRecord TravelAgent.ShareReads
open TravelAgent.TaskStore (pySpace)

def ShareSort.name : ShareSort → String
  | .latest => "latest"
  | .popular => "popular"

/-- A latest cursor leaves the likes out. -/
def ShareSort.carried (o : ShareSort) (k : CursorKey) : CursorKey :=
  match o with
  | .latest => { k with likeCount := 0 }
  | .popular => k

def likeFields (k : CursorKey) : ShareSort → List (String × Json.Scalar)
  | .latest => []
  | .popular => [("like_count", .nat k.likeCount)]

def payload (k : CursorKey) (o : ShareSort) : List (String × Json.Scalar) :=
  ("v", .nat 1) :: (("sort", .str (ShareSort.name o)) :: (likeFields k o ++
    [("published_at", .str (String.ofList (IsoTime.isoformat k.publishedAt))),
      ("share_id", .str k.shareId)]))

/-- The UTF-8 bytes of a text in Base64, without the padding. -/
def encodeText (text : String) : String :=
  String.ofList (Base64.stripPadding (Base64.encode text.toUTF8.data.toList))

def decodeText (cursor : String) : Option String :=
  if cursor.toList.all fun c => decide (c.toNat < 128) then
    (Base64.decode (cursor.toList ++ Base64.padding cursor.toList)).bind fun bytes =>
      String.fromUTF8? ⟨bytes.toArray⟩
  else none

/-- `_encode_cursor` -/
def encodeCursor (k : CursorKey) (o : ShareSort) : String :=
  encodeText (String.ofList (Json.dumps (payload k o)))

/-- `str.replace` of a word by nothing, with the length of the text as fuel. -/
def without (word : List Char) : Nat → List Char → List Char
  | 0, cs => cs
  | _ + 1, [] => []
  | n + 1, c :: cs =>
    if word.isPrefixOf (c :: cs) then without word n ((c :: cs).drop word.length)
    else c :: without word n cs

def remove (word : String) (cs : List Char) : List Char := without word.toList cs.length cs

/-- Digits to base sixteen, with single underscores between them. -/
def hexDigits : List Char → Bool
  | [] => false
  | [c] => (Json.hexValue c).isSome
  | c :: '_' :: cs => (Json.hexValue c).isSome && hexDigits cs
  | c :: cs => (Json.hexValue c).isSome && hexDigits cs

/-- Whether `int(text, 16)` reads a text without a minus sign. -/
def readsHex (cs : List Char) : Bool :=
  let cs := Texts.trim pySpace cs
  let cs := if cs.head? = some '+' then cs.tail else cs
  match cs with
  | '0' :: x :: rest =>
    if x = 'x' ∨ x = 'X' then hexDigits (if rest.head? = some '_' then rest.tail else rest)
    else hexDigits ('0' :: x :: rest)
  | cs => hexDigits cs

/-- Whether `UUID(text)` is built. -/
def isUuid (text : String) : Bool :=
  let hex := remove "-" (Texts.trim (fun c => c = '{' || c = '}')
    (remove "uuid:" (remove "urn:" text.toList)))
  hex.length = 32 && readsHex hex

/-- The value that a key of the payload has last. -/
def field (fields : List (String × Json.Value)) (name : String) : Option Json.Value :=
  (fields.reverse.find? fun f => decide (f.1 = name)).map fun f => f.2

def expectedKeys : ShareSort → List String
  | .latest => ["v", "sort", "published_at", "share_id"]
  | .popular => ["v", "sort", "published_at", "share_id", "like_count"]

def decodeLikes (fields : List (String × Json.Value)) : ShareSort → Option Nat
  | .latest => some 0
  | .popular =>
    match field fields "like_count" with
    | some (.int n) => if 0 ≤ n then some n.toNat else none
    | _ => none

def decodeFields (fields : List (String × Json.Value)) (o : ShareSort) : Option CursorKey :=
  if (fields.all fun f => (expectedKeys o).contains f.1) &&
      (expectedKeys o).all fun k => fields.any fun f => decide (f.1 = k) then
    match field fields "v", field fields "sort", field fields "published_at",
        field fields "share_id" with
    | some (.int v), some (.str sort), some (.str published), some (.str id) =>
      match IsoTime.fromIsoformat published.toList with
      | some (t, some offset) =>
        if v = 1 ∧ sort = ShareSort.name o ∧ offset = 0 ∧ isUuid id then
          (decodeLikes fields o).map fun n => ⟨n, t, id⟩
        else none
      | _ => none
    | _, _, _, _ => none
  else none

/-- `_decode_cursor` -/
def decodeCursor (cursor : String) (o : ShareSort) : Except ShareError CursorKey :=
  match (decodeText cursor).bind fun text => Json.loads text.toList with
  | some (.obj fields) =>
    match decodeFields fields o with
    | some k => .ok k
    | none => .error (.invalidShareCursor "无效的分享列表游标")
  | _ => .error (.invalidShareCursor "无效的分享列表游标")

def shareCursors : CursorCodec := ⟨encodeCursor, decodeCursor⟩

theorem decodeText_encodeText (text : String) : decodeText (encodeText text) = some text := by
  have hascii : (encodeText text).toList.all (fun c => decide (c.toNat < 128)) = true := by
    apply List.all_eq_true.mpr
    intro c hc
    rw [encodeText, String.toList_ofList] at hc
    exact decide_eq_true (Base64.encode_ascii _ c (Base64.mem_of_mem_stripPadding hc))
  rw [decodeText, if_pos hascii, encodeText, String.toList_ofList, Base64.decode_unpadded,
    Option.bind_some, String.fromUTF8?]
  have hvalid : (⟨text.toUTF8.data.toList.toArray⟩ : ByteArray).IsValidUTF8 := text.isValidUTF8
  rw [dif_pos hvalid]
  rfl

/-- A cursor gives back what it carries of the key that it was made of. -/
theorem decodeCursor_encodeCursor {k : CursorKey} (hid : isUuid k.shareId = true)
    (ht : k.publishedAt < IsoTime.maxDays * IsoTime.dayMicros) (o : ShareSort) :
    decodeCursor (encodeCursor k o) o = .ok (ShareSort.carried o k) := by
  have hfields : decodeFields ((payload k o).map fun f => (f.1, f.2.value)) o =
      some (ShareSort.carried o k) := by
    have htime := IsoTime.fromIsoformat_isoformat ht
    cases o with
    | latest =>
      simp [payload, likeFields, decodeFields, expectedKeys, field, Json.Scalar.value, htime, hid,
        decodeLikes, ShareSort.carried]
    | popular =>
      simp [payload, likeFields, decodeFields, expectedKeys, field, Json.Scalar.value, htime, hid,
        decodeLikes, ShareSort.carried]
  rw [payload] at hfields
  rw [decodeCursor, encodeCursor, decodeText_encodeText, Option.bind_some, String.toList_ofList,
    payload, Json.loads_dumps]
  simp only [hfields]

end TravelAgent.ShareCursors
