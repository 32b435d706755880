/-
# Setting up the service

A service is put together from its settings: telemetry first, if it is on,
then the database, the channel for notifications and the engine. It is taken
apart in the opposite order. The steps that concern something outside are
listed in the order in which they are taken.

Key definitions: `SetupStep`, `Telemetry`, `Service`, `Service.build`,
`Service.takeApart`.
-/
import Automation.Broadcast
import Automation.Settings.Basic

namespace Automation

/-- Where spans are sent. -/
inductive Exporter where
  | console
  | collector (endpoint : String)
deriving DecidableEq, Repr

namespace Exporter

/-- Whether the connection to a collector is plain. -/
def isInsecure (endpoint : String) : Bool := endpoint.startsWith "http://"

end Exporter

/-- The pool of connections of a database server. -/
structure Pool where
  size : Int
  overflow : Int
deriving DecidableEq, Repr

/-- A step that concerns something outside. -/
inductive SetupStep where
  | database (url : String) (echo : Bool) (pool : Option Pool)
  | connectRedis (redis : RedisSettings)
  | closeRedis
  | provider (name version environment : String) (rate : Double)
  | exporter (e : Exporter)
  | processor
  | registerProvider
  | instrumentRequests
  | instrumentDatabase
  | instrumentRedis
  | closeProvider

/-! ### Telemetry -/

/-- What spans are described with. -/
structure Telemetry where
  name : String
  version : String
  environment : String := "development"
  /-- Whether there is a provider of spans. -/
  active : Bool := false

namespace Telemetry

/-- The exporter for a kind and an endpoint; none for the kind `none`. An
unknown kind, or a collector without an address, is the console. -/
def exporterFor (kind : String) (endpoint : Option String) : Option Exporter :=
  match kind, Settings.nonempty endpoint with
  | "otlp", some endpoint => some (.collector endpoint)
  | "none", _ => none
  | _, _ => some .console

/-- Sets up a provider; a rate outside 0 to 1 leaves none. -/
def setup (t : Telemetry) (kind : String) (endpoint : Option String) (rate : Double) :
    Telemetry × List SetupStep :=
  if Double.le .zero rate && rate.le (.ofInt 1) then
    ({ t with active := true },
      .provider t.name t.version t.environment rate ::
        (match exporterFor kind endpoint with
          | some e => [.exporter e, .processor]
          | none => [])
        ++ [.registerProvider])
  else (t, [])

/-- A step that is taken only with a provider. -/
def ifActive (t : Telemetry) (step : SetupStep) : List SetupStep := if t.active then [step] else []

end Telemetry

/-! ### The service -/

structure Service where
  settings : Settings
  telemetry : Option Telemetry := none
  /-- The channel for notifications, if it is on. -/
  channel : Option Broadcast := none

namespace Service

/-- Database servers keep a pool of connections. -/
def poolOf (d : DatabaseSettings) : Option Pool :=
  if d.url.startsWith "postgresql" then some ⟨d.poolSize.getD 10, d.maxOverflow.getD 20⟩ else none

/-- A step for the telemetry of the service. -/
def noted (telemetry : Option Telemetry) (step : SetupStep) : List SetupStep :=
  match telemetry with
  | some t => t.ifActive step
  | none => []

/-- Puts the engine of a service together; `answers` tells whether the
channel can be reached. -/
def build (settings : Settings) (telemetry : Option Telemetry) (answers : Bool) :
    Service × List SetupStep :=
  let channel : Option Broadcast :=
    if settings.redis.enabled then
      some { channelPrefix := settings.channelPrefix, connected := answers }
    else none
  let redisSteps :=
    match channel with
    | some _ => .connectRedis settings.redis :: noted telemetry .instrumentRedis
    | none => []
  ({ settings, telemetry, channel },
    .database settings.database.url settings.database.echo (poolOf settings.database) ::
      noted telemetry .instrumentDatabase ++ redisSteps)

/-- Takes the engine of a service apart. -/
def takeApart (s : Service) : List SetupStep :=
  if s.channel.any (·.connected) then [.closeRedis] else []

/-- The telemetry of settings, if it is on. -/
def telemetryOf (s : Settings) : Option Telemetry × List SetupStep :=
  if s.telemetry.enabled then
    let t : Telemetry :=
      { name := s.app.name, version := s.app.version, environment := s.telemetry.environment }
    let (t, steps) := t.setup s.telemetry.exporter s.telemetry.endpoint s.telemetry.sampleRate
    (some t, steps ++ t.ifActive .instrumentRequests)
  else (none, [])

/-- Starts a service with its telemetry. -/
def start (settings : Settings) : Service × List SetupStep :=
  let (telemetry, first) := telemetryOf settings
  let (service, steps) := build settings telemetry true
  (service, first ++ steps)

/-- Stops a service with its telemetry. -/
def stop (s : Service) : List SetupStep := s.takeApart ++ noted s.telemetry .closeProvider

end Service

end Automation
