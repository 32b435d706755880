/-
# Settings

What a service is set up with. Only the address of the database has to be
given; everything else has a default. Mail is off without a mail host.

Key definitions: `Settings`, `Settings.mailServer`, `Settings.listed`.
-/
import Automation.Json.Basic
import Automation.Mail

namespace Automation

structure AppSettings where
  name : String := "storeflow"
  version : String := "1.0.0"
  debug : Bool := false

structure DatabaseSettings where
  url : String := ""
  echo : Bool := false
  poolSize : Option Int := none
  maxOverflow : Option Int := none

structure MailSettings where
  sender : Option String := none
  host : Option String := none
  port : Int := 587
  user : Option String := none
  password : Option String := none
  secure : Bool := false
  timeout : Double := .ofInt 30

structure SchedulerSettings where
  enabled : Bool := true
  /-- The time between ticks in milliseconds. -/
  tick : Int := 30000
  timezone : String := "UTC"

structure DispatcherSettings where
  workers : Int := 4
  queueSize : Int := 1000

structure RedisSettings where
  enabled : Bool := true
  host : String := "localhost"
  port : Int := 6379
  database : Int := 0
  password : Option String := none

structure TelemetrySettings where
  enabled : Bool := false
  exporter : String := "console"
  endpoint : Option String := none
  sampleRate : Double := .ofInt 1
  environment : String := "development"

structure Settings where
  app : AppSettings := {}
  database : DatabaseSettings := {}
  mail : MailSettings := {}
  /-- How long a webhook may take, in milliseconds. -/
  webhookTimeout : Int := 10000
  scheduler : SchedulerSettings := {}
  dispatcher : DispatcherSettings := {}
  maxDepth : Int := 16
  storeHeader : String := "X-Store-ID"
  redis : RedisSettings := {}
  channelPrefix : String := "notifications"
  telemetry : TelemetrySettings := {}

namespace Settings

/-- A text that is given and not empty. -/
def nonempty (s : Option String) : Option String := s.filter (!·.isEmpty)

def mailEnabled (s : Settings) : Bool := (nonempty s.mail.host).isSome

/-- A number of milliseconds in seconds; none beyond the range of doubles. -/
def seconds? (milliseconds : Int) : Option Double := Double.ofQuotient? milliseconds 1000

/-- The mail server, if mail is on. -/
def mailServer (s : Settings) : Option MailServer :=
  (nonempty s.mail.host).map fun host =>
    MailServer.make host s.mail.port s.mail.user (nonempty s.mail.password) s.mail.secure
      s.mail.sender s.mail.timeout

/-- All values by the names of their variables. -/
def listed (s : Settings) : Members :=
  [("app_name", .str s.app.name), ("app_version", .str s.app.version),
    ("debug", .bool s.app.debug), ("database_url", .str s.database.url),
    ("database_echo", .bool s.database.echo), ("db_pool_size", Json.ofInt? s.database.poolSize),
    ("db_max_overflow", Json.ofInt? s.database.maxOverflow),
    ("mail_from", Json.ofText? s.mail.sender), ("mail_host", Json.ofText? s.mail.host),
    ("mail_port", .int s.mail.port), ("mail_user", Json.ofText? s.mail.user),
    ("mail_pass", Json.ofText? s.mail.password), ("mail_secure", .bool s.mail.secure),
    ("mail_timeout_seconds", .float s.mail.timeout), ("webhook_timeout_ms", .int s.webhookTimeout),
    ("scheduler_enabled", .bool s.scheduler.enabled), ("scheduler_tick_ms", .int s.scheduler.tick),
    ("scheduler_timezone", .str s.scheduler.timezone),
    ("dispatcher_workers", .int s.dispatcher.workers),
    ("dispatcher_queue_size", .int s.dispatcher.queueSize), ("workflow_max_depth", .int s.maxDepth),
    ("store_header_name", .str s.storeHeader), ("redis_enabled", .bool s.redis.enabled),
    ("redis_host", .str s.redis.host), ("redis_port", .int s.redis.port),
    ("redis_db", .int s.redis.database), ("redis_password", Json.ofText? s.redis.password),
    ("notification_channel_prefix", .str s.channelPrefix),
    ("telemetry_enabled", .bool s.telemetry.enabled),
    ("telemetry_exporter", .str s.telemetry.exporter),
    ("telemetry_otlp_endpoint", Json.ofText? s.telemetry.endpoint),
    ("telemetry_sample_rate", .float s.telemetry.sampleRate),
    ("telemetry_environment", .str s.telemetry.environment)]

end Settings

end Automation
