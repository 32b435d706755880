/-
# Calling webhooks

A call is answered with a status and a text, takes too long, or breaks off.
Only a status from 200 to 299 is a success; of a failure it is told whether
it took too long.

Key definitions: `Exchange`, `Exchange.outcome`.
-/
import Automation.Failure

namespace Automation

/-- What became of a call. -/
inductive Exchange where
  | answered (status : Int) (text : String)
  | timedOut
  | broken (reason : String)

/-- The status and the text of a call to an address, or its failure. -/
def Exchange.outcome (url : String) : Exchange → Except Failure (Int × String)
  | .answered status text =>
    if 200 ≤ status && status ≤ 299 then .ok (status, text)
    else .error (.action (.webhookStatus status url) none)
  | .timedOut =>
    .error (.action (.transient ("Webhook request timed out: " ++ url) "WEBHOOK_TIMEOUT" []) none)
  | .broken reason =>
    .error (.action (.transient ("Webhook request failed: " ++ reason) "WEBHOOK_REQUEST_FAILED" [])
      none)

end Automation
