import WeatherTelegram.Delivery.Transport
import WeatherTelegram.Journal
import WeatherTelegram.Traced

/-!
# `Delivery.Effect` — what the program does to the world

## Contents
- `Effect`: a journal entry, a printed text, a word of help, an opened client or a post.
- `Effect.event?`, `Effect.printed?`, `Effect.post?`, `Effect.opened?`: effects of one kind.
- `Traced.withEvents`: work that only reports events, as work with effects.
-/

namespace WeatherTelegram

/-- An effect on the world. -/
inductive Effect where
  | report (event : Event)
  | print (text : Text)
  /-- Help on the command line. -/
  | explain
  | openClient (timeout : Binary64)
  | post (post : Post)

namespace Effect

/-- The event that is reported. -/
def event? : Effect → Option Event
  | report e => some e
  | _ => none

/-- The text that is printed. -/
def printed? : Effect → Option Text
  | print t => some t
  | _ => none

/-- The timeout of the client that is opened. -/
def opened? : Effect → Option Binary64
  | openClient timeout => some timeout
  | _ => none

/-- The post that is made. -/
def post? : Effect → Option Post
  | post p => some p
  | _ => none

end Effect

namespace Traced

variable {ε α : Type}

/-- Work that only reports events, as work with effects. -/
def withEvents (x : Traced Event ε α) : Traced Effect ε α := x.mapEffects .report

/-- Reports an event. -/
def report (e : Event) : Traced Effect ε Unit := emit (.report e)

/-- The events that were reported. -/
def events (x : Traced Effect ε α) : List Event := x.trace.filterMap Effect.event?

/-- The posts that were made. -/
def posts (x : Traced Effect ε α) : List Post := x.trace.filterMap Effect.post?

/-- The timeouts of the clients that were opened. -/
def opened (x : Traced Effect ε α) : List Binary64 := x.trace.filterMap Effect.opened?

/-- All that was printed. -/
def printed (x : Traced Effect ε α) : Text := (x.trace.filterMap Effect.printed?).flatten

end Traced

end WeatherTelegram
