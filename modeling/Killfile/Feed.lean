import Killfile.Timestamp

/-! What a feed reader holds: feeds in categories, their entries, and the user who reads them. -/

namespace Killfile

inductive EntryStatus where
  | unread | read | removed
deriving DecidableEq, Repr

def EntryStatus.name : EntryStatus → String
  | .unread => "unread"
  | .read => "read"
  | .removed => "removed"

def EntryStatus.ofName? : String → Option EntryStatus
  | "unread" => some .unread
  | "read" => some .read
  | "removed" => some .removed
  | _ => none

@[simp] theorem EntryStatus.ofName?_name (s : EntryStatus) : ofName? s.name = some s := by
  cases s <;> rfl

structure Entry where
  id : Int
  feedId : Int := 0
  status : EntryStatus := .unread
  title : String := ""
  url : String := ""
  content : String := ""
  author : String := ""
  tags : List String := []
  publishedAt : Option Timestamp := none
deriving DecidableEq, Repr

structure Category where
  id : Int := 0
  title : String := ""
deriving DecidableEq, Repr

structure Feed where
  id : Int
  url : String
  siteUrl : String := ""
  title : String := ""
  category : Category := {}
deriving DecidableEq, Repr

/-- The title of a feed, or its URL when it has none. -/
def Feed.displayTitle (f : Feed) : String := if f.title = "" then f.url else f.title

structure User where
  id : Int
  username : String
  isAdmin : Bool := false
deriving DecidableEq, Repr

end Killfile
