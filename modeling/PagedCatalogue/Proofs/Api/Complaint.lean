import PagedCatalogue.Api.Response
import PagedCatalogue.Proofs.Json.Octets

namespace PagedCatalogue.Api

open Json Text

/-- A body is JSON with one text in it, by the grammar of strings and by the reader. -/
structure Conveys (body message : String) : Prop where
  spelled : ∃ cs, body.toList = "\x7b\"detail\":\"".toList ++ cs ++ "\"\x7d".toList ∧
    ∀ s, Spells cs s ↔ s = message
  received : received (Utf8.encode body.toList) = some (points body.toList)
  read : ∀ depth, Json.read (depth + 1) body = .ok (.object [("detail", .string message)])

variable {body message message' : String}

theorem Conveys.unique (conveys : Conveys body message) (conveys' : Conveys body message') :
    message = message' := by
  have read := conveys.read 0
  rw [conveys'.read 0] at read
  have same : points message'.toList = points message.toList := by simpa using read
  exact (String.toList_injective (points_injective same)).symm

theorem toList_body_detail (createdAt message : String) :
    ((Payload.detail message).body createdAt).toList =
      write (.object (strings [("detail", message)])) :=
  String.toList_ofList

theorem write_detail (message : String) : write (.object (strings [("detail", message)])) =
    "\x7b\"detail\":\"".toList ++ (points message.toList).flatMap escapePoint ++
      "\"\x7d".toList := by
  have name : (points "detail".toList).flatMap escapePoint = "detail".toList := rfl
  simp only [strings, List.map_cons, write_object, write_string, quote, name]
  simp [writeMembers]

theorem read_detail (depth : Nat) (message : String) :
    Json.read (depth + 1) (points (write (.object (strings [("detail", message)])))) =
      .ok (.object [("detail", .string message)]) := by
  have clear : obstacle (depth + 1) (.object (strings [("detail", message)])) = none := by
    cases depth <;> rfl
  rw [read_write (wellFormed_strings _), clear]
  rfl

theorem conveys_detail (createdAt message : String) :
    Conveys ((Payload.detail message).body createdAt) message := by
  have escaped := spells_escapes (apart_points message.toList)
  constructor
  · refine ⟨_, (toList_body_detail _ _).trans (write_detail message), ?_⟩
    intro s
    constructor
    · intro spells
      exact spells.unique escaped
    · rintro rfl
      exact escaped
  · rw [toList_body_detail]
    exact received_write (wellFormed_strings _)
  · intro depth
    rw [toList_body_detail]
    exact read_detail depth message

theorem body_detail_inj {createdAt createdAt' : String} :
    (Payload.detail message).body createdAt = (Payload.detail message').body createdAt' ↔
      message = message' := by
  constructor
  · intro same
    have conveys := conveys_detail createdAt message
    rw [same] at conveys
    exact conveys.unique (conveys_detail createdAt' message')
  · rintro rfl
    rfl

theorem complaints_convey_messages (createdAt message : String) :
    (Response.complaint .badRequest message).status = 400 ∧
    (Response.complaint .notFound message).status = 404 ∧
    ∀ kind : Complaint,
      (Response.complaint kind message).payload.contentType? = some "application/json" ∧
      Conveys ((Response.complaint kind message).payload.body createdAt) message ∧
      ∀ kind' message', (Response.complaint kind message).payload.body createdAt =
        (Response.complaint kind' message').payload.body createdAt ↔ message = message' := by
  refine ⟨rfl, rfl, ?_⟩
  intro kind
  exact ⟨rfl, conveys_detail createdAt message, fun _ _ => body_detail_inj⟩

example : (Response.complaint .badRequest "é\t\"\x01").payload.body "" =
    "\x7b\"detail\":\"é\\t\\\"\\u0001\"\x7d" := by decide

end PagedCatalogue.Api
