import WeatherTelegram.Gateway.Webhook

/-!
# `Gateway.Route` — requests to the gateway

## Contents
- `Request`: a method, a path and a body.
- `Route`, `Route.ofPath?`: what a path leads to; slashes at its end change nothing.
- `Gateway.respond`: the answer to a request.
-/

namespace WeatherTelegram

/-- A request; one without a body has an empty one. -/
structure Request where
  method : Text
  path : Text
  body : Text
deriving DecidableEq, Inhabited

/-- What a path leads to. -/
inductive Route where
  | home
  | health
  | webhook
deriving DecidableEq, Inhabited, Repr

namespace Route

/-- All routes. -/
def all : List Route := [home, health, webhook]

/-- The path of a route. -/
def path : Route → Text
  | home => ['/']
  | health => Text.ofString "/health"
  | webhook => Text.ofString "/v1/ptexter"

/-- The method of a route. -/
def method : Route → Text
  | home | health => Text.ofString "GET"
  | webhook => Text.ofString "POST"

/-- The route of a path, with or without slashes at its end, and whatever the question after it. -/
def ofPath? (t : Text) : Option Route :=
  let path := Text.before '?' t
  match all.find? (·.path == path) with
  | some route => some route
  | none => all.find? (·.path == Text.trimEnd (· == '/') path)

end Route

/-- The state of a gateway that answers. -/
def homeJson : Json := .object [(Text.ofString "status", .text (Text.ofString "ok"))]

/-- The state of a gateway that answers, and the layouts it reads. -/
def healthJson : Json :=
  .object [(Text.ofString "status", .text (Text.ofString "ok")),
    (Text.ofString "variants", .list (Variant.all.map fun v => .ofNat v.size))]

/-- The document of a place in a body. -/
def BodyPlace.toJson : BodyPlace → Json
  | body => .list [.text (Text.ofString "body")]
  | field name => .list [.text (Text.ofString "body"), .text name]
  | position n => .list [.text (Text.ofString "body"), .ofNat n]

/-- The document of a problem with a body. -/
def BodyProblem.toJson (p : BodyProblem) : Json :=
  .object [(Text.ofString "loc", p.place.toJson), (Text.ofString "type", .text p.fault.code),
    (Text.ofString "msg", .text p.fault.message)]

/-- The answer to a body that is no submission. -/
def BodyRefusal.answer : BodyRefusal → Answer
  | problems ps => ⟨422, .object [(Text.ofString "detail", .list (ps.map BodyProblem.toJson))]⟩
  | unreadable => .detail 400 (Text.ofString "There was an error parsing the body")

/-- The answer to a request that is received at `now`. -/
def Gateway.respond (g : Gateway) (now : Instant) (r : Request) : Traced Event Fault Answer :=
  match Route.ofPath? r.path with
  | none => .ok (.detail 404 (Text.ofString "Not Found"))
  | some route =>
    if r.method = route.method then
      match route with
      | .home => .ok ⟨200, homeJson⟩
      | .health => .ok ⟨200, healthJson⟩
      | .webhook =>
        match Submission.ofBody r.body with
        | .ok submission => receive g now submission
        | .error refusal => .ok refusal.answer
    else .ok (.detail 405 (Text.ofString "Method Not Allowed"))

end WeatherTelegram
