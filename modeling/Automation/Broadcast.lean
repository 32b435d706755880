/-
# The broadcast channel

Notifications are published on a channel for each room, as JSON text of an
envelope: room, event, payload. Whether anyone listens is nobody's concern:
without a connection nothing is published, and that is no failure.

Key definitions: `Broadcast`, `Broadcast.channelFor`, `Broadcast.message`,
`Broadcast.publish`.
-/
import Automation.Effect
import Automation.Json.Printer

namespace Automation

structure Broadcast where
  channelPrefix : String := "notifications"
  connected : Bool := false
  /-- Whether publishing fails. -/
  failing : Bool := false

namespace Broadcast

/-- The channel of a room. -/
def channelFor (b : Broadcast) (room : String) : String := b.channelPrefix ++ ":" ++ room

/-- The envelope of a message. -/
def envelope (e : Emission) : Json :=
  .obj [("room", .str e.room), ("event", .str e.event), ("payload", .obj e.payload)]

/-- The text that is published. -/
def message (e : Emission) : String := (envelope e).render

/-- What publishing a message sends, as a channel and a text; none if it
cannot be published. -/
def publish (b : Broadcast) (e : Emission) : Option (String × String) :=
  if b.connected && !b.failing then some (b.channelFor e.room, message e) else none

end Broadcast

end Automation
