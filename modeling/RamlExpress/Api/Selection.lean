import RamlExpress.Api

/-!
# Api/Selection — which response and which media type count

The response that counts is the success with the lowest status; of those that are equally low the
first.  The media type that counts is the first JSON one.
-/

namespace RamlExpress

/-- The first media type whose name ends in `json`. -/
def jsonMedia? (body : List MediaType) : Option MediaType :=
  body.find? fun media => "json".toList.isSuffixOf media.contentType.toList

/-- The JSON schema text attached to a body. -/
def schemaText? (body : List MediaType) : Option String := (jsonMedia? body).bind (·.schema)

/-- The rank of a status that is no number up to 65535. -/
def lastRank : Nat := 65535

/-- A status as a number of up to 65535, for which a plus sign in front does not matter. -/
def statusNumber? (status : String) : Option Nat :=
  let digits := match status.toList with
    | '+' :: rest => rest
    | digits => digits
  if digits.isEmpty || !digits.all Char.isDigit then none
  else
    let value := digits.foldl (fun n c => n * 10 + (c.toNat - '0'.toNat)) 0
    if value ≤ lastRank then some value else none

/-- The rank of a status: its number, or the last one. -/
def statusRank (status : String) : Nat := (statusNumber? status).getD lastRank

/-- A status of success starts with a two. -/
def isSuccess (status : String) : Bool := status.toList.head? == some '2'

/-- The first of the responses with the lowest rank. -/
def lowest? : List Response → Option Response
  | [] => none
  | response :: rest =>
    match lowest? rest with
    | none => some response
    | some other =>
      if statusRank other.status < statusRank response.status then some other else some response

/-- **The response that counts.** -/
def successResponse? (responses : List Response) : Option Response :=
  lowest? (responses.filter fun response => isSuccess response.status)

end RamlExpress
