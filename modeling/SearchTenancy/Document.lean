import SearchTenancy.Flaw
import SearchTenancy.Json.Record

/-!
# Documents

A stored document is a body, a JSON object, under an id. Callers see the id as the
attribute `objectID` of the document. The body that is stored has no such attribute,
so a document has one identity only.
-/

namespace SearchTenancy

/-- The attribute that shows the id of a document to callers. -/
def objectIdAttribute : String := "objectID"

/-- A body and the id it is stored under. -/
structure IndexedObject where
  objectId : String
  body : Members

namespace IndexedObject

/-- The body of a document given by a caller, without its `objectID`. -/
def bodyOf : Json → Except RequestFlaw Members
  | .obj members => .ok (Entries.erase members objectIdAttribute)
  | _ => .error .bodyNotObject

/-- The document as callers see it: the body with `objectID` set to the id. -/
def toValue (object : IndexedObject) : Json := .obj (object.body.insert objectIdAttribute (.str object.objectId))

/-- Body and id apart from each other. -/
def toJson (object : IndexedObject) : Json :=
  .obj [("body", .obj object.body), ("objectID", .str object.objectId)]

/-- Reads a body and an id given apart from each other. -/
def read : Written → Reading RequestFlaw IndexedObject :=
  Written.readRecord
    [Written.required "objectID" Written.readString fun id object => { object with objectId := id },
     Written.required "body" Written.readMembers fun body object => { object with body := body }]
    ⟨"", []⟩

end IndexedObject

end SearchTenancy
