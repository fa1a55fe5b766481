import GatewayFeed.Collection
import GatewayFeed.Proofs.Json.Containers

/-! What a written document is as a collection. Decoding a document of any layout gives what its
value means for the kind. -/

namespace GatewayFeed

open Json (Written Blanks)
open Json.Written (nullable?)

namespace Json.Written

/-- A list of texts; null stands for the empty one. -/
def texts? (v : Written) : Option (List String) :=
  (v.list? (nullable? text?)).map fun ts => ts.map (·.getD "")

def attributes? (v : Written) : Option Attributes :=
  (v.map? (nullable? text?)).map fun es => .ofList (es.map fun e => (e.1, e.2.getD ""))

end Json.Written

namespace FieldType

def plainMeaning : FieldType → Written → Option FieldValue
  | int64, v => v.int64?.map .int64
  | int32, v => v.int32?.map .int32
  | text, v => v.text?.map .text
  | flag, v => v.flag?.map .flag
  | texts, v => v.texts?.map .texts
  | attributes, v => v.attributes?.map .attributes
  | event, _ => none

def eventMeaning (v : Written) : Option Event :=
  (v.record? Event.shape fun t => nullable? t.plainMeaning).map Event.ofRecord

def meaning : FieldType → Written → Option FieldValue
  | event, v => (eventMeaning v).map .event
  | t, v => t.plainMeaning v

end FieldType

def Kind.itemMeaning (k : Kind) (v : Written) : Option k.Item :=
  (v.record? k.shape fun t => nullable? t.meaning).map fun r => k.itemOfRecord r

def Kind.itemsMeaning (k : Kind) (v : Written) : Option (List k.Item) :=
  (v.record? Collection.listShape fun _ => Written.list? k.itemMeaning).bind fun r => r.lookup "list"

namespace Json.Reader

theorem agrees_readPlain (t : FieldType) : Agrees t.readPlain t.plainMeaning := by
  cases t with
  | int64 => exact agrees_map agrees_int64 FieldValue.int64
  | int32 => exact agrees_map agrees_int32 FieldValue.int32
  | text => exact agrees_map agrees_text FieldValue.text
  | flag => exact agrees_map agrees_flag FieldValue.flag
  | texts =>
    intro bs v rest hr
    have h := agrees_map (agrees_list (agrees_nullable agrees_text))
      (fun ts => FieldValue.texts (ts.map (·.getD ""))) bs v hr
    rw [Option.map_map] at h
    rw [FieldType.plainMeaning, Written.texts?, Option.map_map, Option.map_map]
    exact h
  | attributes =>
    intro bs v rest hr
    have h := agrees_map (agrees_entries (agrees_nullable agrees_text))
      (fun es => FieldValue.attributes (.ofList (es.map fun e => (e.1, e.2.getD "")))) bs v hr
    rw [Option.map_map] at h
    rw [FieldType.plainMeaning, Written.attributes?, Option.map_map, Option.map_map]
    exact h
  | event =>
    intro bs v rest hr
    exact read?_wrongType _ _

theorem agrees_readEvent : Agrees FieldType.readEvent FieldType.eventMeaning :=
  agrees_map (agrees_record _ fun t => agrees_nullable (agrees_readPlain t)) Event.ofRecord

theorem agrees_read (t : FieldType) : Agrees t.read t.meaning := by
  cases t with
  | event => exact agrees_map agrees_readEvent FieldValue.event
  | int64 => exact agrees_readPlain .int64
  | int32 => exact agrees_readPlain .int32
  | text => exact agrees_readPlain .text
  | flag => exact agrees_readPlain .flag
  | texts => exact agrees_readPlain .texts
  | attributes => exact agrees_readPlain .attributes

theorem agrees_readItem (k : Kind) : Agrees k.readItem k.itemMeaning :=
  agrees_map (agrees_record _ fun t => agrees_nullable (agrees_read t)) fun r => k.itemOfRecord r

theorem agrees_readItems (k : Kind) : Agrees (Collection.readItems k) k.itemsMeaning := by
  intro bs v rest hr
  have hrecord := agrees_record Collection.listShape (fun _ => agrees_list (agrees_readItem k)) bs v hr
  rw [Collection.readItems, read?_bind, hrecord, Kind.itemsMeaning]
  cases v.record? Collection.listShape fun _ => Written.list? k.itemMeaning with
  | none => rfl
  | some r =>
    simp only [Option.map_some, Option.bind_some]
    cases r.lookup "list" <;> rfl

end Json.Reader

namespace Collection

/-- A document decodes exactly if it means a collection, whatever blanks stand around its tokens and
however its numbers and texts are spelled. -/
theorem toOption_decode (k : Kind) (before : Blanks) (v : Written) (after : Blanks) :
    (decode k (before.bytes ++ (v.bytes ++ after.bytes))).toOption =
      (k.itemsMeaning v).map fun items => ⟨k, items⟩ := by
  rw [← Json.Reader.toOption_document (Json.Reader.agrees_readItems k) before v after, decode]
  cases Json.Reader.document (readItems k) _ <;> rfl

end Collection

end GatewayFeed
