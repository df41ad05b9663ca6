import Killfile.Feed
import Killfile.Json

/-! Feeds, entries and users from JSON. Members a record does not have are ignored, a member given
twice is an error, and records may also be arrays that give their fields in order. -/

namespace Killfile

open Json (required? optional?)

/-- A status as its name, or as an object whose only key is that name and whose value is null. -/
def EntryStatus.ofJson? : Json → Option EntryStatus
  | .string (some s) => ofName? s
  | .object [(some s, .null)] => ofName? s
  | _ => none

def Timestamp.ofJson? (j : Json) : Option Timestamp := do
  Timestamp.parse (← j.text?).toList

def Entry.fieldNames : List String :=
  ["id", "feed_id", "status", "title", "url", "content", "author", "tags", "published_at"]

/-- An entry. Null counts as no tags and as no date, and is an error elsewhere. -/
def Entry.ofJson? (j : Json) : Option Entry := do
  let m ← j.record? fieldNames
  some {
    id := ← required? m "id" Json.int64?
    feedId := ← optional? m "feed_id" 0 Json.int64?
    status := ← optional? m "status" .unread EntryStatus.ofJson?
    title := ← optional? m "title" "" Json.text?
    url := ← optional? m "url" "" Json.text?
    content := ← optional? m "content" "" Json.text?
    author := ← optional? m "author" "" Json.text?
    tags := (← optional? m "tags" none (Json.nullable? (Json.list? Json.text?))).getD []
    publishedAt := ← optional? m "published_at" none (Json.nullable? Timestamp.ofJson?) }

def Category.fieldNames : List String := ["id", "title"]

def Category.ofJson? (j : Json) : Option Category := do
  let m ← j.record? fieldNames
  some {
    id := ← required? m "id" Json.int64?
    title := ← optional? m "title" "" Json.text? }

def Feed.fieldNames : List String := ["id", "feed_url", "site_url", "title", "category"]

def Feed.ofJson? (j : Json) : Option Feed := do
  let m ← j.record? fieldNames
  some {
    id := ← required? m "id" Json.int64?
    url := ← required? m "feed_url" Json.text?
    siteUrl := ← optional? m "site_url" "" Json.text?
    title := ← optional? m "title" "" Json.text?
    category := ← optional? m "category" {} Category.ofJson? }

def User.fieldNames : List String := ["id", "username", "is_admin"]

def User.ofJson? (j : Json) : Option User := do
  let m ← j.record? fieldNames
  some {
    id := ← required? m "id" Json.int64?
    username := ← required? m "username" Json.text?
    isAdmin := ← optional? m "is_admin" false Json.bool? }

end Killfile
