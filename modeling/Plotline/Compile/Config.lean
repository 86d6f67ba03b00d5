import Plotline.Compile.Error
import Plotline.Fitting.Tier
import Plotline.Json.Draft

/-!
# Configuration of a compilation
-/

namespace Plotline

/-- Whether templates are printed for placing them by hand or sent to a client. -/
inductive DeliveryMode
  | offline
  | live
deriving DecidableEq, Repr

structure SessionConfig where
  address : String := "127.0.0.1:31372"
  timeout : Nat := 5000
deriving DecidableEq, Repr

structure Config where
  tier : Tier := .basic
  delivery : DeliveryMode := .offline
  verbose : Bool := false
  errorDetail : ErrorDetail := .short
  session : SessionConfig := {}
deriving DecidableEq, Repr

namespace DeliveryMode

def label : DeliveryMode → String
  | .offline => "offline"
  | .live => "live"

def table : List (String × DeliveryMode) := [("offline", .offline), ("live", .live)]

end DeliveryMode

namespace ErrorDetail

def label : ErrorDetail → String
  | .short => "short"
  | .full => "full"

def table : List (String × ErrorDetail) := [("short", .short), ("full", .full)]

end ErrorDetail

namespace SessionConfig

def toJson (s : SessionConfig) : Json :=
  .obj [("address", .str s.address), ("ack_timeout_ms", .int s.timeout)]

def ofDraft? (d : Json.Draft) : Option SessionConfig := do
  let standard : SessionConfig := {}
  let r ← d.record? ["address", "ack_timeout_ms"]
  let address ← r.orElse "address" (·.leaf?.bind Json.string?) standard.address
  let timeout ← r.orElse "ack_timeout_ms" (·.leaf?.bind Json.nat64?) standard.timeout
  return { address, timeout }

end SessionConfig

namespace Config

/-- The least important messages that are logged. -/
def logLevel (c : Config) : String := if c.verbose then "debug" else "warn"

def toJson (c : Config) : Json :=
  .obj [("tier", .str c.tier.name), ("delivery", .str c.delivery.label),
    ("verbose", .bool c.verbose), ("error_detail", .str c.errorDetail.label),
    ("session", c.session.toJson)]

def ofDraft? (d : Json.Draft) : Option Config := do
  let r ← d.record? ["tier", "delivery", "verbose", "error_detail", "session"]
  let tier ← r.orElse "tier" (Json.Draft.name? (Tier.all.map fun t => (t.name, t))) .basic
  let delivery ← r.orElse "delivery" (Json.Draft.name? DeliveryMode.table) .offline
  let verbose ← r.orElse "verbose" (·.leaf?.bind Json.bool?) false
  let errorDetail ← r.orElse "error_detail" (Json.Draft.name? ErrorDetail.table) .short
  let session ← r.orElse "session" SessionConfig.ofDraft? {}
  return { tier, delivery, verbose, errorDetail, session }

/-- The configuration that a text spells. What it does not mention has its standard value. -/
def ofText? (text : String) : Option Config := (Json.Draft.read? text).bind ofDraft?

end Config

end Plotline
